import ScenarioStubs.Regex.Expr
import ScenarioStubs.Regex.Parser
import ScenarioStubs.Unicode.CaseFolding
import ScenarioStubs.Unicode.Property

/-!
# What written patterns mean

Flags are applied from where they are set to the end of the group around them, across alternatives. With Unicode off,
classes are sets of bytes and must not hold any byte above ASCII, since a match must not split a character.
-/

namespace ScenarioStubs.Regex

open Unicode (CharSet)

/-- The flags in force at some place of a pattern. -/
structure Flags where
  caseInsensitive : Bool := false
  multiLine : Bool := false
  dotMatchesNewLine : Bool := false
  swapGreed : Bool := false
  unicode : Bool := true
  crlf : Bool := false

/-- The flags after one of them was set. -/
def Flags.set (flags : Flags) (f : Flag) (on : Bool) : Flags :=
  match f with
  | .caseInsensitive => { flags with caseInsensitive := on }
  | .multiLine => { flags with multiLine := on }
  | .dotMatchesNewLine => { flags with dotMatchesNewLine := on }
  | .swapGreed => { flags with swapGreed := on }
  | .unicode => { flags with unicode := on }
  | .crlf => { flags with crlf := on }
  | .ignoreWhiteSpace => flags

/-- The flags after several were set. -/
def Flags.apply (flags : Flags) (changes : FlagChanges) : Flags :=
  changes.foldl (fun flags change => flags.set change.1 change.2) flags

/-! ## Classes -/

/-- A set closed under changes of case, if case is to be ignored. -/
def foldCase (flags : Flags) (s : CharSet) : CharSet :=
  if flags.caseInsensitive then (if flags.unicode then s.foldCase else s.foldAsciiCase) else s

/-- A set or its complement. -/
def negate (negated : Bool) (s : CharSet) : CharSet := if negated then s.compl else s

/-- A set that may stand in a pattern: with Unicode off it must be ASCII. -/
def restrict (flags : Flags) (s : CharSet) : Parse CharSet :=
  if flags.unicode || s.isAscii then .ok s else .error .unicodeRequired

/-- The set of a one-letter class. -/
def Shorthand.toSet (unicode : Bool) : Shorthand → CharSet
  | .digit => if unicode then Unicode.Chars.decimalNumber else AsciiClass.digit.chars
  | .space => if unicode then Unicode.Chars.whiteSpace else AsciiClass.space.chars
  | .word => if unicode then Unicode.Chars.word else AsciiClass.word.chars

/-- The set of a property, and whether its complement is meant. -/
def PropertyQuery.toSet? : PropertyQuery → Option (Bool × CharSet)
  | .named name => (Unicode.Property.named? name).map fun s => (false, s)
  | .valued negated name value => (Unicode.Property.valued? name value).map fun s => (negated, s)

/-- The set of two others under an operator. -/
def SetOperator.apply : SetOperator → CharSet → CharSet → CharSet
  | .intersection => (· ∩ ·)
  | .difference => .diff
  | .symmetricDifference => .symmDiff

/-- A character as an end of a range: with Unicode off it must be ASCII. -/
def Literal.toEnd (flags : Flags) (l : Literal) : Parse Nat :=
  if flags.unicode ∨ l.char.toNat < 128 then .ok l.char.toNat else .error .unicodeRequired

mutual

/-- The set that a class writes. -/
def ClassTree.toSet (flags : Flags) : ClassTree → Parse CharSet
  | .literal l => return .single (← l.toEnd flags)
  | .range first last => return .range (← first.toEnd flags) (← last.toEnd flags)
  | .ascii negated kind => restrict flags (negate negated (foldCase flags kind.chars))
  | .shorthand negated kind => restrict flags (negate negated (kind.toSet flags.unicode))
  | .property negated query =>
    if flags.unicode then
      match query.toSet? with
      | some (complement, s) => return negate (negated != complement) (foldCase flags s)
      | none => .error .propertyUnknown
    else .error .unicodeRequired
  | .union items => return .ofRanges (← unionRanges flags items)
  | .bracketed negated body => do restrict flags (negate negated (foldCase flags (← body.toSet flags)))
  | .combined op left right => do
    let left ← left.toSet flags
    let right ← right.toSet flags
    return op.apply (foldCase flags left) (foldCase flags right)

/-- The ranges of the sets of several classes. -/
def ClassTree.unionRanges (flags : Flags) : List ClassTree → Parse (List (Nat × Nat))
  | [] => return []
  | c :: cs => return (← c.toSet flags).ranges ++ (← unionRanges flags cs)

end

/-! ## Expressions -/

/-- The assertion that a written one stands for. -/
def Assertion.toLook (flags : Flags) : Assertion → Look
  | .lineStart => if flags.multiLine then (if flags.crlf then .crlfLineStart else .lineStart) else .textStart
  | .lineEnd => if flags.multiLine then (if flags.crlf then .crlfLineEnd else .lineEnd) else .textEnd
  | .textStart => .textStart
  | .textEnd => .textEnd
  | .wordBoundary => .wordBoundary flags.unicode
  | .notWordBoundary => .notWordBoundary flags.unicode
  | .wordStart => .wordStart flags.unicode
  | .wordEnd => .wordEnd flags.unicode
  | .wordStartHalf => .wordStartHalf flags.unicode
  | .wordEndHalf => .wordEndHalf flags.unicode

/-- What a dot matches. -/
def dotSet (flags : Flags) : CharSet :=
  if flags.dotMatchesNewLine then .all
  else if flags.crlf then (.single 0xA ∪ .single 0xD : CharSet).compl
  else (CharSet.single 0xA).compl

mutual

/-- The expression of a tree under given flags, and the flags after it. -/
def Ast.toExpr (flags : Flags) : Ast → Parse (Expr × Flags)
  | .empty => return (.empty, flags)
  | .flags changes => return (.empty, flags.apply changes)
  | .literal l =>
    if flags.unicode ∨ !l.isByteEscape ∨ l.char.toNat < 128 then
      return (.chars (foldCase flags (.single l.char.toNat)), flags)
    else .error .unicodeRequired
  | .dot => if flags.unicode then return (.chars (dotSet flags), flags) else .error .unicodeRequired
  | .assertion a => return (.look (a.toLook flags), flags)
  | .klass c => return (.chars (← c.toSet flags), flags)
  | .repetition body min max greedy => do
    let (e, flags') ← body.toExpr flags
    return (.repeated e min max (greedy != flags.swapGreed), flags')
  | .group capture changes body => do
    let (e, _) ← body.toExpr (flags.apply changes)
    return (.group capture e, flags)
  | .concat parts => seqExpr flags parts
  | .alternation branches => altExpr flags branches

/-- The expression of several trees one after the other. -/
def Ast.seqExpr (flags : Flags) : List Ast → Parse (Expr × Flags)
  | [] => return (.empty, flags)
  | [a] => a.toExpr flags
  | a :: as => do
    let (e, flags) ← a.toExpr flags
    let (f, flags) ← seqExpr flags as
    return (.seq e f, flags)

/-- The expression of alternatives. -/
def Ast.altExpr (flags : Flags) : List Ast → Parse (Expr × Flags)
  | [] => return (.chars ∅, flags)
  | [a] => a.toExpr flags
  | a :: as => do
    let (e, flags) ← a.toExpr flags
    let (f, flags) ← altExpr flags as
    return (.alt e f, flags)

end

end ScenarioStubs.Regex
