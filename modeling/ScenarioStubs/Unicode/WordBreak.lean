import ScenarioStubs.Unicode.Binary
import ScenarioStubs.Unicode.Case
import ScenarioStubs.Unicode.Grapheme

/-!
# Ends of words

Where a text may be split into words depends on one property, the word-break class of each character (Unicode 16.0).
-/

namespace ScenarioStubs.Unicode.WordBreak

open Chars Grapheme

/-- Characters that are part of what comes before them. -/
def extend : CharSet :=
  (graphemeExtend ∪ spacingMark ∪ emojiModifier).diff (.single 0x200D)

/-- Signs without form of their own. -/
def formatSign : CharSet := format.diff (precedingSign ∪ extend ∪ .range 0x200B 0x200D)

/-- Digits, and signs taken for them. -/
def numeric : CharSet := decimalNumber ∪ .ofTable "600-605 66B 6DD 890-891 8E2 19DA 110BD 110CD"

/-- The letters of Hebrew. -/
def hebrewLetter : CharSet := .ofTable "
  5D0-5EA 5EF-5F2 FB1D FB1F-FB28 FB2A-FB36 FB38-FB3C FB3E FB40-FB41 FB43-FB44 FB46-FB4F"

/-- The letters and signs of Katakana. -/
def katakana : CharSet := .ofTable "
  3031-3035 309B-309C 30A0-30FA 30FC-30FF 31F0-31FF 32D0-32FE 3300-3357 FF66-FF9D 1AFF0-1AFF3 1AFF5-1AFFB 1AFFD-1AFFE
  1B000 1B120-1B122 1B155 1B164-1B167"

/-- Signs that are taken for letters. -/
def furtherLetter : CharSet := .ofTable "
  B8 2C2-2C5 2D2-2D7 2DE-2DF 2E5-2EB 2ED 2EF-2FF 55A-55C 55E 58A 5F3 70F A708-A716 A720-A721 A789-A78A AB5B"

/-- Letters other than ideographs of scripts that do not separate words. -/
def unseparatedLetter : CharSet := .ofTable "
  E01-E30 E32-E33 E40-E46 E81-E82 E84 E86-E8A E8C-EA3 EA5 EA7-EB0 EB2-EB3 EBD EC0-EC4 EC6 EDC-EDF 1000-102A 103F
  1050-1055 105A-105D 1061 1065-1066 106E-1070 1075-1081 108E 1780-17B3 17D7 17DC 1950-196D 1970-1974 1980-19AB
  19B0-19C9 1A20-1A54 1AA7 3041-3096 309D-309F A9E0-A9E4 A9E6-A9EF A9FA-A9FE AA60-AA76 AA7A AA7E-AAAF AAB1 AAB5-AAB6
  AAB9-AABD AAC0 AAC2 AADB-AADD 11700-1171A 11740-11746 1B001-1B11F 1B132 1B150-1B152"

/-- The other letters of scripts that separate words. -/
def letter : CharSet :=
  (alphabetic ∪ furtherLetter).diff (extend ∪ hebrewLetter ∪ katakana ∪ ideographic ∪ unseparatedLetter)

/-- Punctuation that may stand between letters. -/
def midLetter : CharSet := .ofTable "3A B7 387 55F 5F4 2027 FE13 FE55 FF1A"

/-- Punctuation that may stand between digits. -/
def midNumber : CharSet := .ofTable "2C 3B 37E 589 60C-60D 66C 7F8 2044 FE50 FE54 FF0C FF1B"

/-- Punctuation that may stand between letters or between digits. -/
def midEither : CharSet := .ofTable "2E 2018-2019 2024 FE52 FF07 FF0E"

/-- Signs that join words. -/
def joiner : CharSet := .ofTable "5F 202F 203F-2040 2054 FE33-FE34 FE4D-FE4F FF3F"

/-- Spaces that separate words. -/
def wordSpace : CharSet := .ofTable "20 1680 2000-2006 2008-200A 205F 3000"

/-- Characters that do not count when the case of the letters around them is found. -/
def caseIgnorable : CharSet :=
  nonspacingMark ∪ enclosingMark ∪ format ∪ modifierLetter ∪ modifierSymbol ∪ midLetter ∪ midEither ∪ .single 0x27

/-- The characters of the class with a given name, in lower case without blanks and connectors. -/
def named? : String → Option CharSet
  | "cr" => some (.single 0xD)
  | "lf" => some (.single 0xA)
  | "newline" | "nl" => some (.ofTable "B-C 85 2028-2029")
  | "extend" => some extend
  | "format" | "fo" => some formatSign
  | "katakana" | "ka" => some katakana
  | "hebrewletter" | "hl" => some hebrewLetter
  | "aletter" | "le" => some letter
  | "singlequote" | "sq" => some (.single 0x27)
  | "doublequote" | "dq" => some (.single 0x22)
  | "midnumlet" | "mb" => some midEither
  | "midletter" | "ml" => some midLetter
  | "midnum" | "mn" => some midNumber
  | "numeric" | "nu" => some numeric
  | "extendnumlet" | "ex" => some joiner
  | "regionalindicator" | "ri" => some regionalIndicator
  | "wsegspace" => some wordSpace
  | "zwj" => some (.single 0x200D)
  | _ => none

end ScenarioStubs.Unicode.WordBreak
