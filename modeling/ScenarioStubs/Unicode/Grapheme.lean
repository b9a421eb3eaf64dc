import ScenarioStubs.Unicode.Binary
import ScenarioStubs.Unicode.Category.Mark
import ScenarioStubs.Unicode.Emoji
import ScenarioStubs.Unicode.GeneralCategory

/-!
# Graphemes

What a reader takes for one character is a grapheme: a base and what extends it (Unicode 16.0). Where a text may be
split into graphemes depends on one property, the break class of each character.
-/

namespace ScenarioStubs.Unicode.Grapheme

open Chars

/-- Characters that extend a grapheme although they have a width or no mark. -/
def otherGraphemeExtend : CharSet := .ofTable "
  9BE 9D7 B3E B57 BBE BD7 CC0 CC2 CC7-CC8 CCA-CCB CD5-CD6 D3E D57 DCF DDF 1715 1734 1B35 1B3B 1B3D 1B43-1B44 1BAA
  1BF2-1BF3 200C 302E-302F A953 A9C0 FF9E-FF9F 111C0 11235 1133E 1134D 11357 113B8 113C2 113C5 113C7-113C9 113CF
  114B0 114BD 115AF 116B6 11930 1193D 11F41 16FF0-16FF1 1D165-1D166 1D16D-1D172 E0020-E007F"

/-- Characters that extend a grapheme. -/
def graphemeExtend : CharSet := enclosingMark ∪ nonspacingMark ∪ otherGraphemeExtend

/-- Characters that begin a grapheme. -/
def graphemeBase : CharSet :=
  (Category.any.diff Category.other).diff (lineSeparator ∪ paragraphSeparator ∪ graphemeExtend)

/-- Signs that join the letters around them. -/
def graphemeLink : CharSet := .ofTable "
  94D 9CD A4D ACD B4D BCD C4D CCD D3B-D3C D4D DCA E3A EBA F84 1039-103A 1714-1715 1734 17D2 1A60 1B44 1BAA-1BAB
  1BF2-1BF3 2D7F A806 A82C A8C4 A953 A9C0 AAF6 ABED 10A3F 11046 11070 1107F 110B9 11133-11134 111C0 11235 112EA 1134D
  113CE-113D0 11442 114C2 115BF 1163F 116B6 1172B 11839 1193D-1193E 119E0 11A34 11A47 11A99 11C3F 11D44-11D45 11D97
  11F41-11F42 1612F"

/-! ## Break classes -/

/-- Characters that are part of the grapheme before them. -/
def breakExtend : CharSet := (graphemeExtend ∪ emojiModifier).diff (.single 0x200D)

/-- Characters around which a text is always split, the ends of lines apart. -/
def breakControl : CharSet :=
  let ignorable := Category.unassigned ∩ defaultIgnorable
  let lineEnds : CharSet := .single 0xA ∪ .single 0xD
  (lineSeparator ∪ paragraphSeparator ∪ control ∪ format ∪ ignorable).diff
    (lineEnds ∪ .single 0x200D ∪ prependedMark ∪ breakExtend)

/-- Signs that belong to the grapheme after them. -/
def precedingSign : CharSet := .ofTable "
  600-605 6DD 70F 890-891 8E2 D4E 110BD 110CD 111C2-111C3 113D1 1193F 11941 11A3A 11A84-11A89 11D46 11F02"

/-- Marks with width that do not belong to the grapheme before them. -/
def separateMark : CharSet := .ofTable "
  102B-102C 1038 1062-1064 1067-106D 1083 1087-108C 108F 109A-109C 1A61 1A63-1A64 AA7B AA7D 11720-11721"

/-- Marks with width, and vowels written apart, that belong to the grapheme before them. -/
def breakSpacingMark : CharSet :=
  (spacingMark.diff (breakExtend ∪ separateMark)) ∪ .single 0xE33 ∪ .single 0xEB3

/-- Leading consonants of Korean syllables. -/
def leadingJamo : CharSet := .ofTable "1100-115F A960-A97C"

/-- Vowels of Korean syllables. -/
def vowelJamo : CharSet := .ofTable "1160-11A7 D7B0-D7C6 16D63 16D67-16D6A"

/-- Trailing consonants of Korean syllables. -/
def trailingJamo : CharSet := .ofTable "11A8-11FF D7CB-D7FB"

/-- The first of the 28 syllables with a given leading consonant and vowel, the one without a trailing consonant. -/
def openSyllables : List Nat := (List.range 399).map fun i => 0xAC00 + 28 * i

/-- Korean syllables without a trailing consonant. -/
def openSyllable : CharSet := ⟨openSyllables.map fun n => (n, n)⟩

/-- Korean syllables with a trailing consonant. -/
def closedSyllable : CharSet := ⟨openSyllables.map fun n => (n + 1, n + 27)⟩

/-- The characters of the break class with a given name, in lower case without blanks and connectors. -/
def named? : String → Option CharSet
  | "cr" => some (.single 0xD)
  | "lf" => some (.single 0xA)
  | "control" | "cn" => some breakControl
  | "extend" | "ex" => some breakExtend
  | "prepend" | "pp" => some precedingSign
  | "spacingmark" | "sm" => some breakSpacingMark
  | "l" => some leadingJamo
  | "v" => some vowelJamo
  | "t" => some trailingJamo
  | "lv" => some openSyllable
  | "lvt" => some closedSyllable
  | "regionalindicator" | "ri" => some regionalIndicator
  | "zwj" => some (.single 0x200D)
  | _ => none

end ScenarioStubs.Unicode.Grapheme
