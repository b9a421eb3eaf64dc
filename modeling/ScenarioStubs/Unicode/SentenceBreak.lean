import ScenarioStubs.Unicode.WordBreak

/-!
# Ends of sentences

Where a text may be split into sentences depends on one property, the sentence-break class of each character
(Unicode 16.0).
-/

namespace ScenarioStubs.Unicode.SentenceBreak

open Chars Grapheme

/-- Characters that are part of what comes before them. -/
def extend : CharSet := graphemeExtend ∪ spacingMark ∪ .single 0x200D

/-- Digits, and signs taken for them. -/
def numeric : CharSet := WordBreak.numeric ∪ .single 0x66C

/-- Signs without form of their own. -/
def formatSign : CharSet := format.diff (extend ∪ numeric ∪ joinControl)

/-- Lower-case letters; those of Georgian have no case here. -/
def lower : CharSet := lowercase.diff (graphemeExtend ∪ .ofTable "10D0-10FA 10FD-10FF")

/-- Upper-case letters; those of Georgian have no case here. -/
def upper : CharSet := (uppercase ∪ titlecaseLetter).diff (.ofTable "1C90-1CBA 1CBD-1CBF")

/-- Other letters. -/
def letter : CharSet := alphabetic.diff (lower ∪ upper ∪ extend) ∪ .single 0x5F3

/-- Ends of paragraphs. -/
def separator : CharSet := .ofTable "85 2028-2029"

/-- Blanks. -/
def blank : CharSet := whiteSpace.diff (separator ∪ .single 0xA ∪ .single 0xD)

/-- Full stops, which may end an abbreviation only. -/
def fullStop : CharSet := .ofTable "2E 2024 FE52 FF0E"

/-- Brackets and quotation marks. -/
def closing : CharSet := .ofTable "
  22 27-29 5B 5D 7B 7D AB BB F3A-F3D 169B-169C 2018-201F 2039-203A 2045-2046 207D-207E 208D-208E 2308-230B 2329-232A
  275B-2760 2768-2775 27C5-27C6 27E6-27EF 2983-2998 29D8-29DB 29FC-29FD 2E00-2E0D 2E1C-2E1D 2E20-2E29 2E42 2E55-2E5C
  3008-3011 3014-301B 301D-301F FD3E-FD3F FE17-FE18 FE35-FE44 FE47-FE48 FE59-FE5E FF08-FF09 FF3B FF3D FF5B FF5D
  FF5F-FF60 FF62-FF63 1F676-1F678"

/-- Punctuation after which a sentence goes on. -/
def continuing : CharSet := .ofTable "
  2C-2D 3A-3B 37E 55D 60C-60D 7F8 1802 1808 2013-2014 3001 FE10-FE11 FE13-FE14 FE31-FE32 FE50-FE51 FE54-FE55 FE58
  FE63 FF0C-FF0D FF1A-FF1B FF64"

/-- The characters of the class with a given name, in lower case without blanks and connectors. -/
def named? : String → Option CharSet
  | "cr" => some (.single 0xD)
  | "lf" => some (.single 0xA)
  | "sep" | "se" => some separator
  | "extend" | "ex" => some extend
  | "format" | "fo" => some formatSign
  | "sp" => some blank
  | "lower" | "lo" => some lower
  | "upper" | "up" => some upper
  | "oletter" | "le" => some letter
  | "numeric" | "nu" => some numeric
  | "aterm" | "at" => some fullStop
  | "sterm" | "st" => some (sentenceTerminal.diff fullStop)
  | "close" | "cl" => some closing
  | "scontinue" | "sc" => some continuing
  | _ => none

end ScenarioStubs.Unicode.SentenceBreak
