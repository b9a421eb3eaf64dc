import ScenarioStubs.Regex.AsciiClass

/-!
# The written form of a regular expression

The tree that a pattern is parsed into, before flags are applied to it.
-/

namespace ScenarioStubs.Regex

/-- The flags that a pattern may turn on and off. -/
inductive Flag
  | caseInsensitive
  | multiLine
  | dotMatchesNewLine
  | swapGreed
  | unicode
  | crlf
  | ignoreWhiteSpace
  deriving DecidableEq

/-- Flags turned on or off, in the order written. -/
abbrev FlagChanges := List (Flag × Bool)

/-- A character of a pattern. A two-digit escape such as `\x7F` may stand for a byte when Unicode is off. -/
structure Literal where
  char : Char
  isByteEscape : Bool
  deriving DecidableEq

/-- A condition on a place between characters. -/
inductive Assertion
  | lineStart
  | lineEnd
  | textStart
  | textEnd
  | wordBoundary
  | notWordBoundary
  | wordStart
  | wordEnd
  | wordStartHalf
  | wordEndHalf
  deriving DecidableEq

/-- The classes with a one-letter escape. -/
inductive Shorthand
  | digit
  | space
  | word
  deriving DecidableEq

/-- How a pattern names a property of characters. -/
inductive PropertyQuery
  | named (name : String)
  | valued (negated : Bool) (name value : String)
  deriving DecidableEq

/-- The operators between the sets of a bracketed class. -/
inductive SetOperator
  | intersection
  | difference
  | symmetricDifference
  deriving DecidableEq

/-- A class of characters as written. -/
inductive ClassTree
  | literal (l : Literal)
  | range (first last : Literal)
  | ascii (negated : Bool) (kind : AsciiClass)
  | shorthand (negated : Bool) (kind : Shorthand)
  | property (negated : Bool) (query : PropertyQuery)
  | union (items : List ClassTree)
  | bracketed (negated : Bool) (body : ClassTree)
  | combined (op : SetOperator) (left right : ClassTree)

/-- A regular expression as written. -/
inductive Ast
  | empty
  | flags (changes : FlagChanges)
  | literal (l : Literal)
  | dot
  | assertion (a : Assertion)
  | klass (c : ClassTree)
  /-- At least `min` and, if a greatest number is given, at most that many copies; as many as possible, or as few. -/
  | repetition (body : Ast) (min : Nat) (max : Option Nat) (greedy : Bool)
  /-- A group; one that captures has a number. -/
  | group (capture : Option Nat) (changes : FlagChanges) (body : Ast)
  | concat (parts : List Ast)
  | alternation (branches : List Ast)

/-! ## Nesting -/

mutual

/-- How deep the brackets, unions and operators of a class are nested. -/
def ClassTree.depth : ClassTree → Nat
  | .union [] => 0
  | .union (item :: items) => max item.depth (depthAll items) + 1
  | .bracketed _ body => body.depth + 1
  | .combined _ left right => max left.depth right.depth + 1
  | _ => 0

/-- The greatest depth in a list of classes. -/
def ClassTree.depthAll : List ClassTree → Nat
  | [] => 0
  | c :: cs => max c.depth (depthAll cs)

end

mutual

/-- How deep groups, repetitions, sequences, alternatives and bracketed classes are nested. -/
def Ast.depth : Ast → Nat
  | .klass c => c.depth
  | .repetition body _ _ _ => body.depth + 1
  | .group _ _ body => body.depth + 1
  | .concat parts => depthAll parts + 1
  | .alternation branches => depthAll branches + 1
  | _ => 0

/-- The greatest depth in a list of expressions. -/
def Ast.depthAll : List Ast → Nat
  | [] => 0
  | a :: as => max a.depth (depthAll as)

end

end ScenarioStubs.Regex
