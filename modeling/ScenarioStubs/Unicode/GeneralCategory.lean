import ScenarioStubs.Unicode.Category.Letter
import ScenarioStubs.Unicode.Category.Mark
import ScenarioStubs.Unicode.Category.Number
import ScenarioStubs.Unicode.Category.Other
import ScenarioStubs.Unicode.Category.Punctuation
import ScenarioStubs.Unicode.Category.Symbol

/-!
# General categories

Each code point has one general category. A category has a short and a long name; some names stand for the union of
several categories.
-/

namespace ScenarioStubs.Unicode.Category

open Chars

/-- Letters with case. -/
def casedLetter : CharSet := uppercaseLetter ∪ lowercaseLetter ∪ titlecaseLetter

/-- Letters. -/
def letter : CharSet := casedLetter ∪ modifierLetter ∪ otherLetter

/-- Combining marks. -/
def mark : CharSet := nonspacingMark ∪ spacingMark ∪ enclosingMark

/-- Numbers. -/
def number : CharSet := decimalNumber ∪ letterNumber ∪ otherNumber

/-- Punctuation. -/
def punctuation : CharSet :=
  connectorPunctuation ∪ dashPunctuation ∪ openPunctuation ∪ closePunctuation ∪ initialPunctuation ∪
    finalPunctuation ∪ otherPunctuation

/-- Symbols. -/
def symbol : CharSet := mathSymbol ∪ currencySymbol ∪ modifierSymbol ∪ otherSymbol

/-- Separators. -/
def separator : CharSet := spaceSeparator ∪ lineSeparator ∪ paragraphSeparator

/-- All characters. -/
def any : CharSet := .all

/-- Code points without a character, and not surrogates. -/
def unassigned : CharSet :=
  (letter ∪ mark ∪ number ∪ punctuation ∪ symbol ∪ separator ∪ control ∪ format ∪ privateUse ∪ surrogate).compl

/-- Characters that are assigned. -/
def assigned : CharSet := unassigned.compl

/-- What is in no other group of categories: controls, formats, surrogates, private use and what is unassigned. -/
def other : CharSet := control ∪ format ∪ surrogate ∪ privateUse ∪ unassigned

/-- The characters under a name of general categories, in lower case without blanks and connectors. -/
def named? : String → Option CharSet
  | "any" => some any
  | "assigned" => some assigned
  | "ascii" => some (.range 0 0x7F)
  | "lu" | "uppercaseletter" => some uppercaseLetter
  | "ll" | "lowercaseletter" => some lowercaseLetter
  | "lt" | "titlecaseletter" => some titlecaseLetter
  | "lc" | "casedletter" => some casedLetter
  | "lm" | "modifierletter" => some modifierLetter
  | "lo" | "otherletter" => some otherLetter
  | "l" | "letter" => some letter
  | "mn" | "nonspacingmark" => some nonspacingMark
  | "mc" | "spacingmark" => some spacingMark
  | "me" | "enclosingmark" => some enclosingMark
  | "m" | "mark" | "combiningmark" => some mark
  | "nd" | "decimalnumber" | "digit" => some decimalNumber
  | "nl" | "letternumber" => some letterNumber
  | "no" | "othernumber" => some otherNumber
  | "n" | "number" => some number
  | "pc" | "connectorpunctuation" => some connectorPunctuation
  | "pd" | "dashpunctuation" => some dashPunctuation
  | "ps" | "openpunctuation" => some openPunctuation
  | "pe" | "closepunctuation" => some closePunctuation
  | "pi" | "initialpunctuation" => some initialPunctuation
  | "pf" | "finalpunctuation" => some finalPunctuation
  | "po" | "otherpunctuation" => some otherPunctuation
  | "p" | "punctuation" | "punct" => some punctuation
  | "sm" | "mathsymbol" => some mathSymbol
  | "sc" | "currencysymbol" => some currencySymbol
  | "sk" | "modifiersymbol" => some modifierSymbol
  | "so" | "othersymbol" => some otherSymbol
  | "s" | "symbol" => some symbol
  | "zs" | "spaceseparator" => some spaceSeparator
  | "zl" | "lineseparator" => some lineSeparator
  | "zp" | "paragraphseparator" => some paragraphSeparator
  | "z" | "separator" => some separator
  | "cc" | "control" | "cntrl" => some control
  | "cf" | "format" => some format
  | "co" | "privateuse" => some privateUse
  | "cn" | "unassigned" => some unassigned
  | "c" | "other" => some other
  | _ => none

end ScenarioStubs.Unicode.Category
