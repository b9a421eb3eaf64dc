import ScenarioStubs.Regex.Expr

/-!
# Simplified expressions

The form of an expression that its automaton is built from. Runs of single characters are one literal, sequences and
alternatives are flat, alternatives of single characters or of sets are one set, and what all alternatives begin with
stands once before them. A sequence or a choice of more than two parts nests to the right.
-/

namespace ScenarioStubs.Regex

open Unicode (CharSet)

/-- A simplified expression. -/
inductive Shape
  | empty
  /-- Some characters, at least one. -/
  | literal (w : List Nat)
  /-- One character of a set that does not have exactly one member. -/
  | klass (s : CharSet)
  | look (l : Look)
  | repetition (body : Shape) (min : Nat) (max : Option Nat) (greedy : Bool)
  | capture (number : Nat) (body : Shape)
  /-- Two parts, the first of them no sequence. -/
  | concat (first rest : Shape)
  /-- Two branches, the first of them no choice. -/
  | choice (first rest : Shape)
  deriving DecidableEq

namespace Shape

/-- What matches nothing. -/
def fail : Shape := .klass ∅

/-- One character of a set. -/
def ofSet (s : CharSet) : Shape :=
  match s.only? with
  | some n => .literal [n]
  | none => .klass s

/-! ## Lengths of matches -/

/-- The number of bytes of a character in UTF-8. -/
def utf8Length (n : Nat) : Nat := if n < 0x80 then 1 else if n < 0x800 then 2 else if n < 0x10000 then 3 else 4

/-- The least number of bytes of a match, if something matches. -/
def minLength : Shape → Option Nat
  | .empty | .look _ => some 0
  | .literal w => some (w.foldr (fun n len => utf8Length n + len) 0)
  | .klass s => s.ranges.head?.map fun r => utf8Length r.1
  | .repetition body min _ _ => body.minLength.map (min * ·)
  | .capture _ body => body.minLength
  | .concat first rest => do return (← first.minLength) + (← rest.minLength)
  | .choice first rest => do return min (← first.minLength) (← rest.minLength)

/-- The greatest number of bytes of a match, if something matches and there is a greatest. -/
def maxLength : Shape → Option Nat
  | .empty | .look _ => some 0
  | .literal w => some (w.foldr (fun n len => utf8Length n + len) 0)
  | .klass s => s.ranges.getLast?.map fun r => utf8Length r.2
  | .repetition body _ max _ => do return (← body.maxLength) * (← max)
  | .capture _ body => body.maxLength
  | .concat first rest => do return (← first.maxLength) + (← rest.maxLength)
  | .choice first rest => do return max (← first.maxLength) (← rest.maxLength)

/-- Whether every match starts at the start of the text. -/
def startsAnchored : Shape → Bool
  | .look l => l == .textStart
  | .repetition body min _ _ => 0 < min && body.startsAnchored
  | .capture _ body => body.startsAnchored
  | .concat first rest => first.startsAnchored || (first.maxLength == some 0 && rest.startsAnchored)
  | .choice first rest => first.startsAnchored && rest.startsAnchored
  | _ => false

/-- Whether every match ends at the end of the text. -/
def endsAnchored : Shape → Bool
  | .look l => l == .textEnd
  | .repetition body min _ _ => 0 < min && body.endsAnchored
  | .capture _ body => body.endsAnchored
  | .concat first rest => rest.endsAnchored || (rest.maxLength == some 0 && first.endsAnchored)
  | .choice first rest => first.endsAnchored && rest.endsAnchored
  | _ => false

/-! ## Sequences -/

/-- The parts of a sequence; none for the empty one. -/
def parts : Shape → List Shape
  | .empty => []
  | .concat first rest => first :: rest.parts
  | e => [e]

/-- A part put before a sequence; literals next to each other become one. -/
def before (first rest : Shape) : Shape :=
  match first, rest with
  | .empty, rest => rest
  | first, .empty => first
  | .literal v, .literal w => .literal (v ++ w)
  | .literal v, .concat (.literal w) rest => .concat (.literal (v ++ w)) rest
  | first, rest => .concat first rest

/-- The sequence of two shapes. -/
def append (e f : Shape) : Shape := e.parts.foldr before f

/-- The sequence of some shapes. -/
def sequence (es : List Shape) : Shape := es.foldr append .empty

/-! ## Choices -/

/-- The branches of a choice. -/
def branches : Shape → List Shape
  | .choice first rest => first :: rest.branches
  | e => [e]

/-- The choice between some branches, as they are. -/
def choiceOf : List Shape → Shape
  | [] => fail
  | [e] => e
  | e :: es => .choice e (choiceOf es)

/-- The character that is all a shape matches. -/
def char? : Shape → Option Nat
  | .literal [n] => some n
  | _ => none

/-- The set of which a shape matches one character. -/
def set? : Shape → Option CharSet
  | .klass s => some s
  | _ => none

/-- The parts of a sequence of at least two. -/
def sequence? : Shape → Option (List Shape)
  | .concat first rest => some (first :: rest.parts)
  | _ => none

/-- What two lists begin with alike. -/
def commonStart : List Shape → List Shape → List Shape
  | e :: es, f :: fs => if e = f then e :: commonStart es fs else []
  | _, _ => []

/-- What some sequences all begin with. -/
def commonStarts : List (List Shape) → List Shape
  | [] => []
  | [es] => es
  | es :: rest => commonStart es (commonStarts rest)

/-- The choice between some branches. The bound is on how often what all branches begin with is taken out of them. -/
def choose : Nat → List Shape → Shape
  | bound, es =>
    match es.flatMap branches with
    | [] => fail
    | [e] => e
    | es =>
      match es.mapM char?, es.mapM set? with
      | some ns, _ => ofSet (.ofRanges (ns.map fun n => (n, n)))
      | none, some ss => ofSet (ss.foldl (· ∪ ·) ∅)
      | none, none =>
        match bound, (es.mapM sequence?).getD [] with
        | 0, _ | _, [] => choiceOf es
        | bound + 1, rows =>
          match commonStarts rows with
          | [] => choiceOf es
          | start => sequence (start ++ [choose bound (rows.map fun row => sequence (row.drop start.length))])

/-- The number of parts of a shape. -/
def size : Shape → Nat
  | .repetition body _ _ _ | .capture _ body => body.size + 1
  | .concat first rest | .choice first rest => first.size + rest.size + 1
  | _ => 1

/-! ## Repetitions -/

/-- A shape repeated. Copies of what is empty count once. -/
def repeated (e : Shape) (min : Nat) (max : Option Nat) (greedy : Bool) : Shape :=
  let once := e.maxLength == some 0
  let min := if once then Nat.min min 1 else min
  let max := if once then some (Nat.min (max.getD 1) 1) else max
  if max = some 0 then .empty
  else if min = 1 ∧ max = some 1 then e
  else .repetition e min max greedy

end Shape

/-- The choice between some branches; a single branch is no choice. -/
def Shape.oneOf : List Shape → Shape
  | [e] => e
  | es => .choose (es.foldr (fun e n => e.size + n) 0) es

/-- The simplified branches of an expression; an expression without alternatives has one. -/
def Expr.branchShapes : Expr → List Shape
  | .empty => [.empty]
  | .chars s => [.ofSet s]
  | .look l => [.look l]
  | .seq e f => [.append (.oneOf e.branchShapes) (.oneOf f.branchShapes)]
  | .alt e f => .oneOf e.branchShapes :: f.branchShapes
  | .repeated e min max greedy => [.repeated (.oneOf e.branchShapes) min max greedy]
  | .group none e => [.oneOf e.branchShapes]
  | .group (some number) e => [.capture number (.oneOf e.branchShapes)]

/-- The simplified form of an expression. -/
def Expr.shape (e : Expr) : Shape := .oneOf e.branchShapes

end ScenarioStubs.Regex
