import ScenarioStubs.Unicode.Category.Letter
import ScenarioStubs.Unicode.Category.Mark
import ScenarioStubs.Unicode.Category.Number
import ScenarioStubs.Unicode.Category.Punctuation

/-!
# Identifiers and patterns

What identifiers begin with and are made of, and what is kept for the syntax of patterns (Unicode 16.0).
-/

namespace ScenarioStubs.Unicode.Chars

/-- What is kept for the syntax of patterns. -/
def patternSyntax : CharSet := .ofTable "
  21-2F 3A-40 5B-5E 60 7B-7E A1-A7 A9 AB-AC AE B0-B1 B6 BB BF D7 F7 2010-2027 2030-203E 2041-2053 2055-205E 2190-245F
  2500-2775 2794-2BFF 2E00-2E7F 3001-3003 3008-3020 3030 FD3E-FD3F FE45-FE46"

/-- White space of patterns. -/
def patternWhiteSpace : CharSet := .ofTable "9-D 20 85 200E-200F 2028-2029"

/-- What begins an identifier besides the letters and the letter numbers. -/
def otherIdentifierStart : CharSet := .ofTable "1885-1886 2118 212E 309B-309C"

/-- What stands in an identifier besides the letters, numbers, marks and connectors. -/
def otherIdentifierPart : CharSet := .ofTable "B7 387 1369-1371 19DA 200C-200D 30FB FF65"

/-- What begins an identifier. -/
def identifierStart : CharSet :=
  (uppercaseLetter ∪ lowercaseLetter ∪ titlecaseLetter ∪ modifierLetter ∪ otherLetter ∪ letterNumber ∪
    otherIdentifierStart).diff (patternSyntax ∪ patternWhiteSpace)

/-- What stands in an identifier. -/
def identifierPart : CharSet :=
  (identifierStart ∪ nonspacingMark ∪ spacingMark ∪ decimalNumber ∪ connectorPunctuation ∪ otherIdentifierPart).diff
    (patternSyntax ∪ patternWhiteSpace)

/-- What begins an identifier, and does so after normalization. -/
def closedIdentifierStart : CharSet :=
  identifierStart.diff (.ofTable "37A E33 EB3 309B-309C FC5E-FC63 FDFA-FDFB FE70~FE7E FF9E-FF9F")

/-- What stands in an identifier, and does so after normalization. -/
def closedIdentifierPart : CharSet :=
  identifierPart.diff (.ofTable "37A 309B-309C FC5E-FC63 FDFA-FDFB FE70~FE7E")

/-- Mathematical signs that may begin an identifier. -/
def mathIdentifierStart : CharSet := .ofTable "
  2202 2207 221E 1D6C1 1D6DB 1D6FB 1D715 1D735 1D74F 1D76F 1D789 1D7A9 1D7C3"

/-- Mathematical signs that may stand in an identifier. -/
def mathIdentifierPart : CharSet := .ofTable "
  B2-B3 B9 2070 2074-207E 2080-208E 2202 2207 221E 1D6C1 1D6DB 1D6FB 1D715 1D735 1D74F 1D76F 1D789 1D7A9 1D7C3"

end ScenarioStubs.Unicode.Chars
