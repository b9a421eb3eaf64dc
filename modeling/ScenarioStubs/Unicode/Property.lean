import ScenarioStubs.Unicode.Age
import ScenarioStubs.Unicode.Identifier
import ScenarioStubs.Unicode.Script
import ScenarioStubs.Unicode.SentenceBreak

/-!
# Properties of characters

The sets of characters that are named by a property or by a property and a value. Names are compared without regard to
case, blanks, hyphens, underscores and a leading `is`.
-/

namespace ScenarioStubs.Unicode.Property

open Chars Grapheme

/-- A name in lower case without blanks, hyphens and underscores, and without a leading `is`. The short name `isc`
of an unrelated property does not lose its first two letters. -/
def normalName (name : String) : String :=
  let squeeze (cs : List Char) :=
    (cs.filter fun c => c.toNat < 128 && c != ' ' && c != '_' && c != '-').map Char.toLower
  match name.toList with
  | i :: s :: rest =>
    if i.toLower = 'i' ∧ s.toLower = 's' then
      let short := String.ofList (squeeze rest)
      if short == "c" then "isc" else short
    else String.ofList (squeeze name.toList)
  | cs => String.ofList (squeeze cs)

/-- The characters that have the property of a given name. -/
def binary? : String → Option CharSet
  | "asciihexdigit" | "ahex" => some asciiHexDigit
  | "alphabetic" | "alpha" => some alphabetic
  | "bidicontrol" | "bidic" => some bidiControl
  | "bidimirrored" | "bidim" => some bidiMirrored
  | "caseignorable" | "ci" => some WordBreak.caseIgnorable
  | "cased" => some cased
  | "changeswhencasefolded" | "cwcf" => some changesCasefolded
  | "changeswhencasemapped" | "cwcm" => some changesCasemapped
  | "changeswhenlowercased" | "cwl" => some changesLowercased
  | "changeswhentitlecased" | "cwt" => some changesTitlecased
  | "changeswhenuppercased" | "cwu" => some changesUppercased
  | "dash" => some dash
  | "defaultignorablecodepoint" | "di" => some defaultIgnorable
  | "deprecated" | "dep" => some deprecated
  | "diacritic" | "dia" => some diacritic
  | "emoji" => some emoji
  | "emojicomponent" | "ecomp" => some emojiComponent
  | "emojimodifier" | "emod" => some emojiModifier
  | "emojimodifierbase" | "ebase" => some emojiModifierBase
  | "emojipresentation" | "epres" => some emojiPresentation
  | "extendedpictographic" | "extpict" => some extendedPictographic
  | "extender" | "ext" => some extender
  | "graphemebase" | "grbase" => some graphemeBase
  | "graphemeextend" | "grext" => some graphemeExtend
  | "graphemelink" | "grlink" => some graphemeLink
  | "hexdigit" | "hex" => some hexDigit
  | "hyphen" => some hyphen
  | "idcompatmathcontinue" => some mathIdentifierPart
  | "idcompatmathstart" => some mathIdentifierStart
  | "idcontinue" | "idc" => some identifierPart
  | "idstart" | "ids" => some identifierStart
  | "ideographic" | "ideo" => some ideographic
  | "idsbinaryoperator" | "idsb" => some describesTwo
  | "idstrinaryoperator" | "idst" => some describesThree
  | "idsunaryoperator" | "idsu" => some describesOne
  | "joincontrol" | "joinc" => some joinControl
  | "logicalorderexception" | "loe" => some logicalOrderException
  | "lowercase" | "lower" => some lowercase
  | "math" => some math
  | "modifiercombiningmark" | "mcm" => some modifierCombiningMark
  | "noncharactercodepoint" | "nchar" => some noncharacter
  | "otheralphabetic" | "oalpha" => some otherAlphabetic
  | "otherdefaultignorablecodepoint" | "odi" => some otherDefaultIgnorable
  | "othergraphemeextend" | "ogrext" => some otherGraphemeExtend
  | "otheridcontinue" | "oidc" => some otherIdentifierPart
  | "otheridstart" | "oids" => some otherIdentifierStart
  | "otherlowercase" | "olower" => some otherLowercase
  | "othermath" | "omath" => some otherMath
  | "otheruppercase" | "oupper" => some otherUppercase
  | "patternsyntax" | "patsyn" => some patternSyntax
  | "patternwhitespace" | "patws" => some patternWhiteSpace
  | "prependedconcatenationmark" | "pcm" => some prependedMark
  | "quotationmark" | "qmark" => some quotationMark
  | "radical" => some radical
  | "regionalindicator" | "ri" => some regionalIndicator
  | "sentenceterminal" | "sterm" => some sentenceTerminal
  | "softdotted" | "sd" => some softDotted
  | "terminalpunctuation" | "term" => some terminalPunctuation
  | "unifiedideograph" | "uideo" => some unifiedIdeograph
  | "uppercase" | "upper" => some uppercase
  | "variationselector" | "vs" => some variationSelector
  | "whitespace" | "wspace" | "space" => some whiteSpace
  | "xidcontinue" | "xidc" => some closedIdentifierPart
  | "xidstart" | "xids" => some closedIdentifierStart
  | _ => none

/-- The characters of a script with a given name. -/
def ofScript? (name : String) : Option CharSet := (script? name).map (·.own)

/-- The characters that a single name stands for. -/
def named? (name : String) : Option CharSet :=
  let name := normalName name
  binary? name <|> Category.named? name <|> ofScript? name

/-- The characters that a property has a given value for. -/
def valued? (name value : String) : Option CharSet :=
  let value := normalName value
  match normalName name with
  | "generalcategory" | "gc" => Category.named? value
  | "script" | "sc" => ofScript? value
  | "scriptextensions" | "scx" => (script? value).map (·.extended)
  | "age" => Age.knownIn? value
  | "graphemeclusterbreak" | "gcb" => Grapheme.named? value
  | "wordbreak" | "wb" => WordBreak.named? value
  | "sentencebreak" | "sb" => SentenceBreak.named? value
  | _ => none

end ScenarioStubs.Unicode.Property
