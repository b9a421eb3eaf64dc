import ScenarioStubs.Json.Basic
import ScenarioStubs.Text.Ascii

/-!
# Writing JSON

Values are written without white space. A string escapes the quote, the backslash and the control characters below
the space, five of them by a letter and the rest by four digits. A string that names no text is written as a lone
surrogate escape. Each writer puts its text in front of a given rest.
-/

namespace ScenarioStubs.Json

/-- A character of a string literal, in front of `rest`. -/
def writeChar (c : Char) (rest : List Char) : List Char :=
  if c = '"' then '\\' :: '"' :: rest
  else if c = '\\' then '\\' :: '\\' :: rest
  else if c = '\x08' then '\\' :: 'b' :: rest
  else if c = '\x0C' then '\\' :: 'f' :: rest
  else if c = '\n' then '\\' :: 'n' :: rest
  else if c = '\r' then '\\' :: 'r' :: rest
  else if c = '\t' then '\\' :: 't' :: rest
  else if c < ' ' then
    '\\' :: 'u' :: '0' :: '0' :: Text.hexDigit (c.toNat / 16) :: Text.hexDigit (c.toNat % 16) :: rest
  else c :: rest

/-- A string literal in front of `rest`. -/
def writeString (s : Option String) (rest : List Char) : List Char :=
  match s with
  | some s => '"' :: s.toList.foldr writeChar ('"' :: rest)
  | none => '"' :: '\\' :: 'u' :: 'd' :: '8' :: '0' :: '0' :: '"' :: rest

mutual

/-- A value in front of `rest`. -/
def write : Json → List Char → List Char
  | .null, rest => 'n' :: 'u' :: 'l' :: 'l' :: rest
  | .bool true, rest => 't' :: 'r' :: 'u' :: 'e' :: rest
  | .bool false, rest => 'f' :: 'a' :: 'l' :: 's' :: 'e' :: rest
  | .number digits, rest => digits.toList ++ rest
  | .string s, rest => writeString s rest
  | .array [], rest => '[' :: ']' :: rest
  | .array (v :: vs), rest => '[' :: write v (writeItems vs rest)
  | .object [], rest => '{' :: '}' :: rest
  | .object ((name, v) :: fs), rest => '{' :: writeString name (':' :: write v (writeFields fs rest))

/-- The items after the first, and the closing bracket. -/
def writeItems : List Json → List Char → List Char
  | [], rest => ']' :: rest
  | v :: vs, rest => ',' :: write v (writeItems vs rest)

/-- The fields after the first, and the closing brace. -/
def writeFields : List (Option String × Json) → List Char → List Char
  | [], rest => '}' :: rest
  | (name, v) :: fs, rest => ',' :: writeString name (':' :: write v (writeFields fs rest))

end

/-- The text of a value. -/
def render (v : Json) : String := String.ofList (write v [])

end ScenarioStubs.Json
