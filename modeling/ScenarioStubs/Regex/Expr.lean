import ScenarioStubs.Regex.AsciiClass
import ScenarioStubs.Unicode.Case

/-!
# Regular expressions and what they match

An expression matches stretches of a text; which ones may depend on the characters just before and after the stretch,
since it may assert something about a place. `Expr.Matches e before w after` says that `e` matches the stretch `w`
with `before` in front of it and `after` behind it, where `none` is an end of the text. Groups, and whether a
repetition prefers many copies or few, do not matter for it; they are kept because the size of an expression's
automaton depends on them.
-/

namespace ScenarioStubs.Regex

open Unicode (CharSet)

/-- What may be asserted of a place. -/
inductive Look
  | textStart
  | textEnd
  | lineStart
  | lineEnd
  | crlfLineStart
  | crlfLineEnd
  | wordBoundary (unicode : Bool)
  | notWordBoundary (unicode : Bool)
  | wordStart (unicode : Bool)
  | wordEnd (unicode : Bool)
  | wordStartHalf (unicode : Bool)
  | wordEndHalf (unicode : Bool)
  deriving DecidableEq

/-- Whether there is a character of a word at a side of a place. -/
def isWordAt (unicode : Bool) : Option Char → Bool
  | some c => if unicode then Unicode.Chars.word.mem c else AsciiClass.word.chars.mem c
  | none => false

/-- Whether an assertion holds between two characters. -/
def Look.holds (l : Look) (before after : Option Char) : Bool :=
  match l with
  | .textStart => before.isNone
  | .textEnd => after.isNone
  | .lineStart => before.isNone || before == some '\n'
  | .lineEnd => after.isNone || after == some '\n'
  | .crlfLineStart => before.isNone || before == some '\n' || (before == some '\r' && after != some '\n')
  | .crlfLineEnd => after.isNone || after == some '\r' || (after == some '\n' && before != some '\r')
  | .wordBoundary u => isWordAt u before != isWordAt u after
  | .notWordBoundary u => isWordAt u before == isWordAt u after
  | .wordStart u => !isWordAt u before && isWordAt u after
  | .wordEnd u => isWordAt u before && !isWordAt u after
  | .wordStartHalf u => !isWordAt u before
  | .wordEndHalf u => !isWordAt u after

/-- A regular expression. -/
inductive Expr
  /-- The empty stretch. -/
  | empty
  /-- One character of a set. -/
  | chars (s : CharSet)
  /-- The empty stretch at a place of which something holds. -/
  | look (l : Look)
  | seq (e f : Expr)
  | alt (e f : Expr)
  /-- At least `min` and, if a greatest number is given, at most that many stretches one after the other. -/
  | repeated (e : Expr) (min : Nat) (max : Option Nat) (greedy : Bool)
  /-- What stands in parentheses; a number if the group captures. -/
  | group (capture : Option Nat) (e : Expr)
  deriving DecidableEq

/-- The first character of a stretch, or what follows the stretch if it is empty. -/
def ahead (w : List Char) (after : Option Char) : Option Char := w.head? <|> after

/-- The last character of a stretch, or what precedes the stretch if it is empty. -/
def behind (before : Option Char) (w : List Char) : Option Char := w.getLast? <|> before

/-- The stretches that an expression matches between two characters. -/
inductive Expr.Matches : Expr → Option Char → List Char → Option Char → Prop
  | empty {before after} : Matches .empty before [] after
  | chars {s c before after} : s.mem c = true → Matches (.chars s) before [c] after
  | look {l before after} : l.holds before after = true → Matches (.look l) before [] after
  | seq {e f before u v after} : Matches e before u (ahead v after) → Matches f (behind before u) v after →
      Matches (.seq e f) before (u ++ v) after
  | altLeft {e f before w after} : Matches e before w after → Matches (.alt e f) before w after
  | altRight {e f before w after} : Matches f before w after → Matches (.alt e f) before w after
  | done {e max greedy before after} : Matches (.repeated e 0 max greedy) before [] after
  | more {e min max greedy before u v after} : max ≠ some 0 → Matches e before u (ahead v after) →
      Matches (.repeated e (min - 1) (max.map (· - 1)) greedy) (behind before u) v after →
      Matches (.repeated e min max greedy) before (u ++ v) after
  | group {capture e before w after} : Matches e before w after → Matches (.group capture e) before w after

/-- The text holds a stretch that the expression matches. -/
def Expr.Found (e : Expr) (text : List Char) : Prop :=
  ∃ u w v, text = u ++ w ++ v ∧ e.Matches u.getLast? w v.head?

end ScenarioStubs.Regex
