import ScenarioStubs.Unicode.CharSet

/-!
# General categories: separators and others

The tables of the categories of separators, controls, formats and private use (Unicode 16.0). Surrogates have a
category too, although they are no characters.
-/

namespace ScenarioStubs.Unicode.Chars

/-- Spaces. -/
def spaceSeparator : CharSet := .ofTable "20 A0 1680 2000-200A 202F 205F 3000"

/-- The line separator. -/
def lineSeparator : CharSet := .ofTable "2028"

/-- The paragraph separator. -/
def paragraphSeparator : CharSet := .ofTable "2029"

/-- Control characters. -/
def control : CharSet := .ofTable "0-1F 7F-9F"

/-- Format characters. -/
def format : CharSet := .ofTable "
  AD 600-605 61C 6DD 70F 890-891 8E2 180E 200B-200F 202A-202E 2060-2064 2066-206F FEFF FFF9-FFFB 110BD 110CD
  13430-1343F 1BCA0-1BCA3 1D173-1D17A E0001 E0020-E007F"

/-- Private-use characters. -/
def privateUse : CharSet := .ofTable "E000-F8FF F0000-FFFFD 100000-10FFFD"

/-- Surrogates. -/
def surrogate : CharSet := .range 0xD800 0xDFFF

end ScenarioStubs.Unicode.Chars
