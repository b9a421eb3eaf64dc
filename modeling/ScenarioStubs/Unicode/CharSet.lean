import ScenarioStubs.Text.Ascii
import ScenarioStubs.Text.Split

/-!
# Sets of characters

A set is kept as the ranges of its code points, ascending, none overlapping or touching the next. The surrogates
between U+D7FF and U+E000 are no characters: a range may run over them, and the characters at their sides are
neighbours.
-/

namespace ScenarioStubs.Unicode

/-- A set of characters, as ascending ranges of code points from the first to the last. -/
structure CharSet where
  ranges : List (Nat × Nat)
  deriving DecidableEq

namespace CharSet

/-- The greatest code point. -/
def maxCodePoint : Nat := 0x10FFFF

/-- The character after one. -/
def next (n : Nat) : Nat := if n = 0xD7FF then 0xE000 else n + 1

/-- The character before one. -/
def previous (n : Nat) : Nat := if n = 0xE000 then 0xD7FF else n - 1

/-! ## Members -/

/-- Whether a code point lies in one of some ascending ranges. -/
def inRanges : List (Nat × Nat) → Nat → Bool
  | [], _ => false
  | (first, last) :: rest, n => first ≤ n && (n ≤ last || inRanges rest n)

/-- Whether a code point belongs to a set. -/
def contains (s : CharSet) (n : Nat) : Bool := inRanges s.ranges n

/-- Whether a character belongs to a set. -/
def mem (s : CharSet) (c : Char) : Bool := s.contains c.toNat

/-- Whether every member is an ASCII character. -/
def isAscii (s : CharSet) : Bool := s.ranges.all fun r => r.2 < 128

/-- The only member of a set. -/
def only? (s : CharSet) : Option Nat :=
  match s.ranges with
  | [(first, last)] => if first = last then some first else none
  | _ => none

/-! ## Building sets -/

/-- Ranges in order of their first code points, with those that overlap or touch made one. -/
def coalesce : List (Nat × Nat) → List (Nat × Nat)
  | [] => []
  | [r] => [r]
  | r :: s :: rest =>
    if s.1 ≤ r.2 + 1 then coalesce ((r.1, max r.2 s.2) :: rest) else r :: coalesce (s :: rest)
termination_by rs => rs.length

/-- The set of the members of some ranges in any order. -/
def ofRanges (rs : List (Nat × Nat)) : CharSet := ⟨coalesce (rs.mergeSort fun r s => r.1 ≤ s.1)⟩

/-- The set without members. -/
def empty : CharSet := ⟨[]⟩

instance : EmptyCollection CharSet := ⟨empty⟩

/-- The set of all characters. -/
def all : CharSet := ⟨[(0, maxCodePoint)]⟩

/-- The characters from one to another. -/
def range (first last : Nat) : CharSet := ⟨[(first, last)]⟩

/-- The set of one character. -/
def single (n : Nat) : CharSet := range n n

/-- The ranges that a word of a table stands for: `61` for one code point, `41-5A` for a range, `100~12E` for every
second code point between two. -/
def ofWord (word : List Char) : List (Nat × Nat) :=
  let number (cs : List Char) := (Text.hexNumber? cs).getD 0
  match Text.splitFirst? '-' word, Text.splitFirst? '~' word with
  | some (first, last), _ => [(number first, number last)]
  | none, some (first, last) =>
    let first := number first
    (List.range ((number last - first) / 2 + 1)).map fun i => (first + 2 * i, first + 2 * i)
  | none, none => if word.isEmpty then [] else [(number word, number word)]

/-- The words of a table, between blanks and line breaks. -/
def wordsOf (text : String) : List (List Char) :=
  Text.splitAll ' ' (text.toList.map fun c => if c = '\n' then ' ' else c)

/-- The set that a table of hexadecimal words writes; they are ascending. -/
def ofTable (text : String) : CharSet := ⟨(wordsOf text).flatMap ofWord⟩

/-! ## Operations -/

/-- The members of either set. -/
def union (s t : CharSet) : CharSet := ⟨coalesce (s.ranges.merge t.ranges fun r s => r.1 ≤ s.1)⟩

instance : Union CharSet := ⟨union⟩

/-- The common parts of two lists of ranges. -/
def common : List (Nat × Nat) → List (Nat × Nat) → List (Nat × Nat)
  | [], _ | _ :: _, [] => []
  | r :: rs, s :: ss =>
    let rest := if r.2 < s.2 then common rs (s :: ss) else common (r :: rs) ss
    if max r.1 s.1 ≤ min r.2 s.2 then (max r.1 s.1, min r.2 s.2) :: rest else rest
termination_by rs ss => rs.length + ss.length

/-- The members of both sets. -/
def inter (s t : CharSet) : CharSet := ⟨common s.ranges t.ranges⟩

instance : Inter CharSet := ⟨inter⟩

/-- Ranges with the parts that lie in other ranges cut out. -/
def cut : List (Nat × Nat) → List (Nat × Nat) → List (Nat × Nat)
  | [], _ => []
  | r :: rs, [] => r :: rs
  | r :: rs, s :: ss =>
    if s.2 < r.1 then cut (r :: rs) ss
    else if r.2 < s.1 then r :: cut rs (s :: ss)
    else
      let rest := if s.2 < r.2 then cut ((next s.2, r.2) :: rs) ss else cut rs (s :: ss)
      if r.1 < s.1 then (r.1, previous s.1) :: rest else rest
termination_by rs ss => rs.length + ss.length

/-- The members of the first set that are not in the second. -/
def diff (s t : CharSet) : CharSet := ⟨cut s.ranges t.ranges⟩

/-- The members of exactly one of two sets. -/
def symmDiff (s t : CharSet) : CharSet := (s ∪ t).diff (s ∩ t)

/-- The ranges between given ones, from a code point on. A gap runs from the character after a range to the character
before the next; where only the surrogates lie between two ranges, these two characters are the ends of the gap. -/
def gaps : Nat → List (Nat × Nat) → List (Nat × Nat)
  | from_, [] => if from_ ≤ maxCodePoint then [(from_, maxCodePoint)] else []
  | from_, r :: rs =>
    if r.1 = 0 then gaps (next r.2) rs
    else (min from_ (previous r.1), max from_ (previous r.1)) :: gaps (next r.2) rs

/-- The characters that are not in a set. -/
def compl (s : CharSet) : CharSet := ⟨gaps 0 s.ranges⟩

end CharSet

end ScenarioStubs.Unicode
