import ScenarioStubs.Text.Ascii

/-!
# UUIDs

A UUID is a number of 128 bits, shown as 32 lower-case hexadecimal digits in groups of 8, 4, 4, 4 and 12. It is read
in that form in either case, also inside braces or after `urn:uuid:`, and without any hyphen.
-/

namespace ScenarioStubs

/-- A UUID. -/
structure Uuid where
  bits : BitVec 128
  deriving DecidableEq

namespace Uuid

/-- The UUID of version 4 with given bits, but for the six that tell its kind. -/
def random (bits : BitVec 128) : Uuid :=
  let kind : BitVec 128 := 0x00000000000040008000000000000000
  let mask : BitVec 128 := 0x000000000000f000c000000000000000
  ⟨(bits &&& ~~~mask) ||| kind⟩

/-- The UUID of 32 hexadecimal digits. -/
def ofHex? (digits : List Char) : Option Uuid :=
  if digits.length = 32 then (Text.hexNumber? digits).map fun n => ⟨BitVec.ofNat 128 n⟩ else none

/-- The UUID of five groups of digits between hyphens. -/
def ofGroups? (cs : List Char) : Option Uuid :=
  let (g₁, r₁) := cs.splitAt 8
  let (g₂, r₂) := (r₁.drop 1).splitAt 4
  let (g₃, r₃) := (r₂.drop 1).splitAt 4
  let (g₄, r₄) := (r₃.drop 1).splitAt 4
  if [r₁, r₂, r₃, r₄].all (fun r => r.head? == some '-') then ofHex? (g₁ ++ g₂ ++ g₃ ++ g₄ ++ r₄.drop 1) else none

/-- The UUID that a text writes. -/
def parse? (s : String) : Option Uuid :=
  let cs := s.toList
  if cs.length = 32 then ofHex? cs
  else if cs.length = 36 then ofGroups? cs
  else if cs.length = 38 ∧ cs.head? = some '\x7b' ∧ cs.getLast? = some '\x7d' then ofGroups? (cs.drop 1).dropLast
  else if cs.length = 45 ∧ Text.sameIgnoringCase (String.ofList (cs.take 9)) "urn:uuid:" then ofGroups? (cs.drop 9)
  else none

/-- The lower-case hexadecimal digits of a number, `count` of them. -/
def hexDigits (count n : Nat) : List Char :=
  (List.range count).map fun i => Text.hexDigit ((n >>> (4 * (count - 1 - i))) % 16)

/-- The hyphenated lower-case form. -/
def render (u : Uuid) : String :=
  let digits := hexDigits 32 u.bits.toNat
  let group (start count : Nat) := (digits.drop start).take count
  String.ofList <|
    group 0 8 ++ '-' :: group 8 4 ++ '-' :: group 12 4 ++ '-' :: group 16 4 ++ '-' :: group 20 12

end Uuid

end ScenarioStubs
