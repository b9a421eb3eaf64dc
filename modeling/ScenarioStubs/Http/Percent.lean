import ScenarioStubs.Text.Ascii
import ScenarioStubs.Text.Utf8

/-!
# Percent-encoding

A percent sign before two hexadecimal digits stands for a byte; any other percent sign stands for itself.
-/

namespace ScenarioStubs.Percent

/-- The bytes that a byte sequence stands for. -/
def decodeBytes : Bytes → Bytes
  | 0x25 :: a :: b :: rest =>
    match Text.hexNumber? [Char.ofNat a.toNat, Char.ofNat b.toNat] with
    | some n => n.toUInt8 :: decodeBytes rest
    | none => 0x25 :: decodeBytes (a :: b :: rest)
  | c :: rest => c :: decodeBytes rest
  | [] => []

/-- The text that a path segment stands for, if its bytes are UTF-8. -/
def decode? (segment : String) : Option String := Utf8.decode? (decodeBytes (Utf8.encode segment))

end ScenarioStubs.Percent
