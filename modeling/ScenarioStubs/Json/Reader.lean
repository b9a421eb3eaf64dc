import ScenarioStubs.Json.Basic
import ScenarioStubs.Text.Ascii
import ScenarioStubs.Text.Utf8

/-!
# Reading JSON

The grammar of JSON over decoded symbols. White space is space, tab, line feed and carriage return; nothing may
follow the value but white space. Control characters are refused inside strings, and so are escapes other than the
grammar's; what a string literal denotes is settled only after its end is found (`denote`).
-/

namespace ScenarioStubs.Json.Reader

open Utf8 (Symbol)

/-- The white space of JSON. -/
def isBlank (c : Char) : Bool := c == ' ' || c == '\t' || c == '\n' || c == '\r'

/-- The input after its leading white space. -/
def skipBlanks : List Symbol → List Symbol
  | some c :: rest => if isBlank c then skipBlanks rest else some c :: rest
  | rest => rest

/-! ## Numbers -/

/-- The longest run of digits at the front, and the rest. -/
def spanDigits : List Symbol → List Char × List Symbol
  | some c :: rest =>
    if c.isDigit then let (ds, rest) := spanDigits rest; (c :: ds, rest) else ([], some c :: rest)
  | rest => ([], rest)

/-- One digit or more. -/
def digits? (input : List Symbol) : Option (List Char × List Symbol) :=
  match spanDigits input with
  | ([], _) => none
  | found => some found

/-- The whole part of a number: a zero, or digits that do not begin with one. -/
def whole? : List Symbol → Option (List Char × List Symbol)
  | some '0' :: rest => some (['0'], rest)
  | input => digits? input

/-- The fraction of a number, if it has one. -/
def fraction? : List Symbol → Option (List Char × List Symbol)
  | some '.' :: rest => (digits? rest).map fun (ds, rest) => ('.' :: ds, rest)
  | input => some ([], input)

/-- The exponent of a number, if it has one. -/
def exponent? : List Symbol → Option (List Char × List Symbol)
  | some e :: rest =>
    if e = 'e' ∨ e = 'E' then
      match rest with
      | some '+' :: rest => (digits? rest).map fun (ds, rest) => (e :: '+' :: ds, rest)
      | some '-' :: rest => (digits? rest).map fun (ds, rest) => (e :: '-' :: ds, rest)
      | rest => (digits? rest).map fun (ds, rest) => (e :: ds, rest)
    else some ([], some e :: rest)
  | input => some ([], input)

/-- A number without its sign. -/
def magnitude? (input : List Symbol) : Option (List Char × List Symbol) := do
  let (whole, rest) ← whole? input
  let (fraction, rest) ← fraction? rest
  let (exponent, rest) ← exponent? rest
  return (whole ++ fraction ++ exponent, rest)

/-- A number. -/
def number? : List Symbol → Option (Json × List Symbol)
  | some '-' :: rest => (magnitude? rest).map fun (cs, rest) => (.number (String.ofList ('-' :: cs)), rest)
  | input => (magnitude? input).map fun (cs, rest) => (.number (String.ofList cs), rest)

/-! ## Strings -/

/-- A part of a string literal. -/
inductive Piece
  | char (c : Char)
  /-- A `\u` escape, as the UTF-16 unit it names. -/
  | unit (n : Nat)
  | undecodable

/-- The character that an escape of one letter names. -/
def escape? : Char → Option Char
  | '"' => some '"'
  | '\\' => some '\\'
  | '/' => some '/'
  | 'b' => some '\x08'
  | 'f' => some '\x0C'
  | 'n' => some '\n'
  | 'r' => some '\r'
  | 't' => some '\t'
  | _ => none

/-- The pieces of a string literal up to its closing quote, put behind those of `found` (last first). -/
def pieces? (found : List Piece) : List Symbol → Option (List Piece × List Symbol)
  | some '"' :: rest => some (found.reverse, rest)
  | some '\\' :: some 'u' :: some a :: some b :: some c :: some d :: rest =>
    match Text.hexNumber? [a, b, c, d] with
    | some n => pieces? (.unit n :: found) rest
    | none => none
  | some '\\' :: some e :: rest =>
    match escape? e with
    | some c => pieces? (.char c :: found) rest
    | none => none
  | some c :: rest => if c < ' ' ∨ c = '\\' then none else pieces? (.char c :: found) rest
  | none :: rest => pieces? (.undecodable :: found) rest
  | [] => none

/-- Whether a UTF-16 unit opens a pair. -/
def isHighSurrogate (n : Nat) : Bool := 0xD800 ≤ n && n < 0xDC00

/-- Whether a UTF-16 unit closes a pair. -/
def isLowSurrogate (n : Nat) : Bool := 0xDC00 ≤ n && n < 0xE000

/-- The text of a string literal, put behind the characters of `found` (last first): surrogate escapes must come in
pairs and every symbol must be decodable. -/
def denote (found : List Char) : List Piece → Option (List Char)
  | [] => some found.reverse
  | .char c :: rest => denote (c :: found) rest
  | .unit n :: .unit m :: rest =>
    if isHighSurrogate n then
      if isLowSurrogate m then
        denote (Char.ofNat (0x10000 + (n - 0xD800) * 0x400 + (m - 0xDC00)) :: found) rest
      else none
    else if isLowSurrogate n then none
    else denote (Char.ofNat n :: found) (.unit m :: rest)
  | .unit n :: rest =>
    if isHighSurrogate n ∨ isLowSurrogate n then none else denote (Char.ofNat n :: found) rest
  | .undecodable :: _ => none

/-- A string literal after its opening quote, as the text it denotes, if it denotes one. -/
def stringTail? (input : List Symbol) : Option (Option String × List Symbol) :=
  (pieces? [] input).map fun (ps, rest) => ((denote [] ps).map String.ofList, rest)

/-! ## Values -/

mutual

/-- A value. The first argument bounds the number of values and brackets still to be opened. -/
def value? : Nat → List Symbol → Option (Json × List Symbol)
  | 0, _ => none
  | bound + 1, input =>
    match skipBlanks input with
    | some '{' :: rest =>
      match skipBlanks rest with
      | some '}' :: rest => some (.object [], rest)
      | rest => fields? bound [] rest
    | some '[' :: rest =>
      match skipBlanks rest with
      | some ']' :: rest => some (.array [], rest)
      | rest => items? bound [] rest
    | some '"' :: rest => (stringTail? rest).map fun (s, rest) => (.string s, rest)
    | some 't' :: some 'r' :: some 'u' :: some 'e' :: rest => some (.bool true, rest)
    | some 'f' :: some 'a' :: some 'l' :: some 's' :: some 'e' :: rest => some (.bool false, rest)
    | some 'n' :: some 'u' :: some 'l' :: some 'l' :: rest => some (.null, rest)
    | rest => number? rest

/-- The items of an array from one of them to its closing bracket, behind those of `found` (last first). -/
def items? : Nat → List Json → List Symbol → Option (Json × List Symbol)
  | 0, _, _ => none
  | bound + 1, found, input =>
    match value? bound input with
    | none => none
    | some (v, rest) =>
      match skipBlanks rest with
      | some ',' :: rest => items? bound (v :: found) rest
      | some ']' :: rest => some (.array (v :: found).reverse, rest)
      | _ => none

/-- The fields of an object from one of them to its closing brace, behind those of `found` (last first). -/
def fields? : Nat → List (Option String × Json) → List Symbol → Option (Json × List Symbol)
  | 0, _, _ => none
  | bound + 1, found, input =>
    match skipBlanks input with
    | some '"' :: rest =>
      match stringTail? rest with
      | none => none
      | some (name, rest) =>
        match skipBlanks rest with
        | some ':' :: rest =>
          match value? bound rest with
          | none => none
          | some (v, rest) =>
            match skipBlanks rest with
            | some ',' :: rest => fields? bound ((name, v) :: found) rest
            | some '}' :: rest => some (.object ((name, v) :: found).reverse, rest)
            | _ => none
        | _ => none
    | _ => none

end

end ScenarioStubs.Json.Reader

namespace ScenarioStubs.Json

/-- The value that the symbols write, with nothing but white space around it. -/
def ofSymbols? (input : List Utf8.Symbol) : Option Json :=
  match Reader.value? (2 * input.length + 1) input with
  | some (v, rest) => if (Reader.skipBlanks rest).isEmpty then some v else none
  | none => none

/-- The value that a text writes. -/
def parse? (s : String) : Option Json := ofSymbols? (s.toList.map some)

/-- The value that a byte sequence writes. -/
def parseBytes? (bytes : Bytes) : Option Json := ofSymbols? (Utf8.symbols bytes)

end ScenarioStubs.Json
