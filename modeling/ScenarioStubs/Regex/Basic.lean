import ScenarioStubs.Regex.Matching
import ScenarioStubs.Regex.Meaning
import ScenarioStubs.Regex.Size

/-!
# Compiled patterns

`compile` reads a pattern; `isMatch` tells whether it matches some stretch of a text. A pattern is refused when its
automata would be too large.
-/

namespace ScenarioStubs.Regex

/-- The expression that a pattern writes. -/
def compile (pattern : String) : Parse Expr := do
  let ast ← Ast.parse pattern.toList
  let (e, _) ← ast.toExpr {}
  if e.shape.fits then return e else .error .tooLarge

/-- Whether an expression matches some stretch of a text. -/
def isMatch (e : Expr) (text : String) : Bool := e.isFoundIn text.toList

end ScenarioStubs.Regex
