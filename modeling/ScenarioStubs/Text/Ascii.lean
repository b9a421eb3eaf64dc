/-!
# Letter case of ASCII text

Header names and HTTP methods are compared without regard to the case of the letters `A` to `Z`; every other
character, letters outside ASCII included, stands for itself.
-/

namespace ScenarioStubs.Text

/-- The text with the letters `a` to `z` raised. -/
def upperAscii (s : String) : String := s.map Char.toUpper

/-- The text with the letters `A` to `Z` lowered. -/
def lowerAscii (s : String) : String := s.map Char.toLower

/-- Equality of texts up to the case of ASCII letters. -/
def sameIgnoringCase (s t : String) : Bool := lowerAscii s == lowerAscii t

theorem sameIgnoringCase_iff {s t : String} : sameIgnoringCase s t = true ↔ lowerAscii s = lowerAscii t := by
  simp [sameIgnoringCase]

theorem sameIgnoringCase_eq (s t : String) :
    sameIgnoringCase s t = (s.toList.map Char.toLower == t.toList.map Char.toLower) := by
  rw [Bool.eq_iff_iff, sameIgnoringCase_iff, beq_iff_eq, ← String.toList_inj]
  unfold lowerAscii
  rw [String.toList_map, String.toList_map]

/-- The value of a hexadecimal digit in either case. -/
def hexDigit? (c : Char) : Option Nat :=
  if '0' ≤ c ∧ c ≤ '9' then some (c.toNat - '0'.toNat)
  else if 'a' ≤ c ∧ c ≤ 'f' then some (c.toNat - 'a'.toNat + 10)
  else if 'A' ≤ c ∧ c ≤ 'F' then some (c.toNat - 'A'.toNat + 10)
  else none

/-- The lower-case hexadecimal digit of a value below sixteen. -/
def hexDigit (n : Nat) : Char :=
  if n < 10 then Char.ofNat ('0'.toNat + n) else Char.ofNat ('a'.toNat + (n - 10))

/-- The number that a list of digits names in the given base, most significant digit first. -/
def ofDigits (base : Nat) (digits : List Nat) : Nat := digits.foldl (fun n d => n * base + d) 0

/-- The number written by hexadecimal digits; `none` if some character is no such digit. -/
def hexNumber? (cs : List Char) : Option Nat := (cs.mapM hexDigit?).map (ofDigits 16)

/-- The number written by decimal digits; `none` if some character is no such digit. -/
def decimalNumber? (cs : List Char) : Option Nat :=
  if cs.all Char.isDigit then some (ofDigits 10 (cs.map fun c => c.toNat - '0'.toNat)) else none

end ScenarioStubs.Text
