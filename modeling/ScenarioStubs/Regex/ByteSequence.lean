import ScenarioStubs.Unicode.CharSet

/-!
# Sequences of ranges of bytes

The UTF-8 forms of the characters from one to another are the members of a few sequences of ranges of bytes: the
range is cut where the number of bytes changes, at the surrogates, and where the first bytes that two characters share
end, until in each piece every byte ranges freely.
-/

namespace ScenarioStubs.Regex

open Unicode (CharSet)

/-- The bytes from the first to the last. -/
abbrev ByteRange := Nat × Nat

/-- The bytes of a code point in UTF-8. -/
def utf8Bytes (n : Nat) : List Nat :=
  if n < 0x80 then [n]
  else if n < 0x800 then [0xC0 + n / 0x40, 0x80 + n % 0x40]
  else if n < 0x10000 then [0xE0 + n / 0x1000, 0x80 + n / 0x40 % 0x40, 0x80 + n % 0x40]
  else [0xF0 + n / 0x40000, 0x80 + n / 0x1000 % 0x40, 0x80 + n / 0x40 % 0x40, 0x80 + n % 0x40]

namespace ByteSequence

/-- The last character of the first part of a range that is cut where a block of a given length, a power of 64, is
begun or ended but not filled. -/
def blockCut? (block first last : Nat) : Option Nat :=
  if first / block = last / block then none
  else if first % block ≠ 0 then some (first / block * block + (block - 1))
  else if last % block ≠ block - 1 then some (last / block * block - 1)
  else none

/-- The last character of the first part of a range that has to be cut. -/
def cut? (first last : Nat) : Option Nat :=
  match [0x7F, 0x7FF, 0xFFFF].find? fun n => first ≤ n && n < last with
  | some n => some n
  | none =>
    if last ≤ 0x7F then none
    else blockCut? 0x40 first last <|> blockCut? 0x1000 first last <|> blockCut? 0x40000 first last

/-- The sequences for a range of characters, ascending. -/
def ofRange (first last : Nat) : List (List ByteRange) :=
  if last < first then []
  else
    let cut := if first < 0xE000 ∧ 0xD7FF < last then some 0xD7FF else cut? first last
    match cut with
    | some n =>
      if _h : n < last ∧ first < CharSet.next n then ofRange first n ++ ofRange (CharSet.next n) last else []
    | none => [(utf8Bytes first).zip (utf8Bytes last)]
termination_by last + 1 - first

/-- The sequences for the members of a set. -/
def ofSet (s : CharSet) : List (List ByteRange) := s.ranges.flatMap fun r => ofRange r.1 r.2

end ByteSequence

end ScenarioStubs.Regex
