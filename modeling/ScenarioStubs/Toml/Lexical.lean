import ScenarioStubs.Text.Ascii

/-!
# Lexical elements of TOML

Blanks, comments, keys, strings and numbers. Each reader takes a list of characters and gives what it has read and the
rest, or `none` where the text does not begin with what it reads.
-/

namespace ScenarioStubs.Toml

/-! ## Blanks -/

/-- Space and tab. -/
def isBlank (c : Char) : Bool := c == ' ' || c == '\t'

/-- The input after its leading blanks. -/
def skipBlanks (cs : List Char) : List Char := cs.dropWhile isBlank

/-- Whether a character may stand in a comment: no control character but the tab. -/
def isCommentChar (c : Char) : Bool := c == '\t' || (' ' ≤ c && c != '\x7F')

/-- The input after a line break. -/
def newline? : List Char → Option (List Char)
  | '\n' :: cs | '\r' :: '\n' :: cs => some cs
  | _ => none

/-- The input after a comment, if it begins with one. -/
def skipComment : List Char → List Char
  | '#' :: cs => cs.dropWhile isCommentChar
  | cs => cs

/-- The input after blanks, perhaps a comment, and the end of the line or of the input. -/
def lineEnd? (cs : List Char) : Option (List Char) :=
  match skipComment (skipBlanks cs) with
  | [] => some []
  | cs => newline? cs

/-- The input after blanks, comments and line breaks. The first argument bounds their number. -/
def skipLines : Nat → List Char → List Char
  | 0, cs => cs
  | bound + 1, cs =>
    let cs := skipComment (skipBlanks cs)
    match newline? cs with
    | some cs => skipLines bound cs
    | none => cs

/-! ## Strings -/

/-- Whether a character may stand for itself in a string with escapes. -/
def isBasicChar (c : Char) : Bool := isCommentChar c && c != '"' && c != '\\'

/-- Whether a character may stand in a string without escapes. -/
def isLiteralChar (c : Char) : Bool := isCommentChar c && c != '\''

/-- The character that hexadecimal digits name, if they name one. -/
def scalar? (digits : List Char) : Option Char :=
  (Text.hexNumber? digits).bind fun n => if h : n.isValidChar then some (Char.ofNatAux n h) else none

/-- The character of an escape after its backslash, and the rest. -/
def escape? : List Char → Option (Char × List Char)
  | 'b' :: cs => some ('\x08', cs)
  | 't' :: cs => some ('\t', cs)
  | 'n' :: cs => some ('\n', cs)
  | 'f' :: cs => some ('\x0C', cs)
  | 'r' :: cs => some ('\r', cs)
  | '"' :: cs => some ('"', cs)
  | '\\' :: cs => some ('\\', cs)
  | 'u' :: cs => if 4 ≤ cs.length then (scalar? (cs.take 4)).map (·, cs.drop 4) else none
  | 'U' :: cs => if 8 ≤ cs.length then (scalar? (cs.take 8)).map (·, cs.drop 8) else none
  | _ => none

/-- The rest of a string with escapes, behind the characters of `found` (last first). -/
def basicTail? : Nat → List Char → List Char → Option (String × List Char)
  | 0, _, _ => none
  | bound + 1, found, cs =>
    match cs with
    | '"' :: cs => some (String.ofList found.reverse, cs)
    | '\\' :: cs =>
      match escape? cs with
      | some (c, cs) => basicTail? bound (c :: found) cs
      | none => none
    | c :: cs => if isBasicChar c then basicTail? bound (c :: found) cs else none
    | [] => none

/-- A string without escapes, after its opening quote. -/
def literalTail? (cs : List Char) : Option (String × List Char) :=
  match cs.dropWhile isLiteralChar with
  | '\'' :: rest => some (String.ofList (cs.takeWhile isLiteralChar), rest)
  | _ => none

/-- The input without the line break that may open a string of several lines. -/
def skipFirstBreak (cs : List Char) : List Char := (newline? cs).getD cs

/-- The end of a string of several lines: three quotes, before which two more may stand for themselves. -/
def closing? (quote : Char) (cs : List Char) : Option (List Char × List Char) :=
  let quotes := cs.takeWhile (· == quote)
  if quotes.length < 3 then none
  else
    let own := min (quotes.length - 3) 2
    some (List.replicate own quote, cs.drop (own + 3))

/-- The input after the blanks and line breaks that an escaped line break swallows; `none` if no line break follows
the backslash. -/
def skipEscapedBreak? (cs : List Char) : Option (List Char) :=
  (newline? (skipBlanks cs)).map fun cs => swallow cs.length cs
where
  /-- Drops blanks and line breaks. -/
  swallow : Nat → List Char → List Char
    | 0, cs => cs
    | bound + 1, cs =>
      let cs := skipBlanks cs
      match newline? cs with
      | some cs => swallow bound cs
      | none => cs

/-- The rest of a string of several lines with escapes. A line break reads as a line feed. -/
def multiBasicTail? : Nat → List Char → List Char → Option (String × List Char)
  | 0, _, _ => none
  | bound + 1, found, cs =>
    match closing? '"' cs with
    | some (own, rest) => some (String.ofList (found.reverse ++ own), rest)
    | none =>
      match newline? cs with
      | some cs => multiBasicTail? bound ('\n' :: found) cs
      | none =>
        match cs with
        | '\\' :: cs =>
          match escape? cs with
          | some (c, cs) => multiBasicTail? bound (c :: found) cs
          | none => (skipEscapedBreak? cs).bind (multiBasicTail? bound found)
        | '"' :: cs => multiBasicTail? bound ('"' :: found) cs
        | c :: cs => if isBasicChar c then multiBasicTail? bound (c :: found) cs else none
        | [] => none

/-- The rest of a string of several lines without escapes. A line break reads as a line feed. -/
def multiLiteralTail? : Nat → List Char → List Char → Option (String × List Char)
  | 0, _, _ => none
  | bound + 1, found, cs =>
    match closing? '\'' cs with
    | some (own, rest) => some (String.ofList (found.reverse ++ own), rest)
    | none =>
      match newline? cs with
      | some cs => multiLiteralTail? bound ('\n' :: found) cs
      | none =>
        match cs with
        | c :: cs =>
          if isLiteralChar c || c == '\'' then multiLiteralTail? bound (c :: found) cs else none
        | [] => none

/-- A string on one line. -/
def lineString? : List Char → Option (String × List Char)
  | '"' :: cs => basicTail? (cs.length + 1) [] cs
  | '\'' :: cs => literalTail? cs
  | _ => none

/-- A string of any form. -/
def string? : List Char → Option (String × List Char)
  | '"' :: '"' :: '"' :: cs => let cs := skipFirstBreak cs; multiBasicTail? (cs.length + 1) [] cs
  | '\'' :: '\'' :: '\'' :: cs => let cs := skipFirstBreak cs; multiLiteralTail? (cs.length + 1) [] cs
  | cs => lineString? cs

/-! ## Keys -/

/-- Whether a character may stand in a key without quotes. -/
def isBareKeyChar (c : Char) : Bool := c.isAlphanum || c == '-' || c == '_'

/-- A key without dots. -/
def simpleKey? (cs : List Char) : Option (String × List Char) :=
  match cs.takeWhile isBareKeyChar with
  | [] => lineString? cs
  | bare => some (String.ofList bare, cs.dropWhile isBareKeyChar)

/-- A key: names between dots, blanks around each of them. -/
def key? : Nat → List Char → Option (List String × List Char)
  | 0, _ => none
  | bound + 1, cs => do
    let (name, cs) ← simpleKey? (skipBlanks cs)
    match skipBlanks cs with
    | '.' :: cs =>
      let (names, cs) ← key? bound cs
      return (name :: names, cs)
    | cs => return ([name], cs)

/-! ## Numbers -/

/-- Digits with single underscores between them. -/
def digits? (isDigit : Char → Bool) : List Char → Option (List Char × List Char)
  | c :: cs => if isDigit c then let (ds, rest) := more cs; some (c :: ds, rest) else none
  | [] => none
where
  /-- The digits after the first. -/
  more : List Char → List Char × List Char
    | '_' :: c :: cs =>
      if isDigit c then let (ds, rest) := more cs; (c :: ds, rest) else ([], '_' :: c :: cs)
    | c :: cs => if isDigit c then let (ds, rest) := more cs; (c :: ds, rest) else ([], c :: cs)
    | [] => ([], [])

/-- A sign, if there is one. -/
def sign? : List Char → Option Char × List Char
  | '+' :: cs => (some '+', cs)
  | '-' :: cs => (some '-', cs)
  | cs => (none, cs)

/-- The digits of a decimal number: a single zero, or digits that do not begin with one. -/
def decimal? : List Char → Option (List Char × List Char)
  | '0' :: cs => some (['0'], cs)
  | cs => digits? Char.isDigit cs

/-- An integer of 64 bits with its sign. -/
def bounded? (negative : Bool) (n : Nat) : Option Int :=
  let half := Int64.size / 2
  if negative then (if n ≤ half then some (-(n : Int)) else none)
  else if n < half then some n else none

/-- An integer: decimal, or hexadecimal, octal or binary after its mark. -/
def integer? (cs : List Char) : Option (Int × List Char) := do
  let based (base : Nat) (isDigit : Char → Bool) (cs : List Char) : Option (Int × List Char) := do
    let (ds, rest) ← digits? isDigit cs
    return (← bounded? false (Text.ofDigits base (ds.filterMap Text.hexDigit?)), rest)
  match cs with
  | '0' :: 'x' :: cs => based 16 (fun c => (Text.hexDigit? c).isSome) cs
  | '0' :: 'o' :: cs => based 8 (fun c => '0' ≤ c && c ≤ '7') cs
  | '0' :: 'b' :: cs => based 2 (fun c => c == '0' || c == '1') cs
  | cs =>
    let (sign, cs) := sign? cs
    let (ds, rest) ← decimal? cs
    return (← bounded? (sign == some '-') (← Text.decimalNumber? ds), rest)

/-- Whether a decimal number `digits · 10 ^ exponent` is too large for a binary number of 64 bits. -/
def overflows (digits : Nat) (exponent : Int) : Bool :=
  let size := (Nat.toDigits 10 digits).length
  if digits = 0 ∨ size + exponent < 308 then false
  else if 310 < size + exponent then true
  else
    let limit := Nat.pow 2 1024 - Nat.pow 2 970
    if 0 ≤ exponent then limit ≤ digits * Nat.pow 10 exponent.toNat
    else limit * Nat.pow 10 (-exponent).toNat ≤ digits

/-- A number with a fraction or an exponent, or the name of a number that has no digits. A positive number must not be
too large. -/
def float? (cs : List Char) : Option (String × List Char) := do
  let (sign, cs) := sign? cs
  let signed (ds : List Char) := String.ofList (sign.toList ++ ds)
  match cs with
  | 'i' :: 'n' :: 'f' :: cs => return (signed "inf".toList, cs)
  | 'n' :: 'a' :: 'n' :: cs => return (signed "nan".toList, cs)
  | cs =>
    let (whole, cs) ← decimal? cs
    let (fraction, cs) ← match cs with
      | '.' :: cs => (digits? Char.isDigit cs).map fun (ds, cs) => (some ds, cs)
      | cs => some (none, cs)
    let (exponent, cs) ← match cs with
      | 'e' :: cs | 'E' :: cs =>
        let (sign, cs) := sign? cs
        (digits? Char.isDigit cs).map fun (ds, cs) => (some (sign == some '-', ds), cs)
      | cs => some (none, cs)
    if fraction.isNone ∧ exponent.isNone then none
    let fractionDigits := fraction.getD []
    let magnitude ← Text.decimalNumber? (whole ++ fractionDigits)
    let power : Int ← match exponent with
      | some (negative, ds) => (Text.decimalNumber? ds).map fun n => if negative then -(n : Int) else n
      | none => some 0
    if sign != some '-' ∧ overflows magnitude (power - fractionDigits.length) then none
    return (signed (whole ++ '.' :: fractionDigits ++ 'e' :: (toString power).toList), cs)

/-! ## Dates and times -/

/-- A number of exactly `width` digits in a range. -/
def fixed? (width least greatest : Nat) (cs : List Char) : Option (Nat × List Char) := do
  if cs.length < width then none
  let n ← Text.decimalNumber? (cs.take width)
  if least ≤ n ∧ n ≤ greatest then some (n, cs.drop width) else none

/-- A given character. -/
def expect? (c : Char) : List Char → Option (List Char)
  | c' :: cs => if c' = c then some cs else none
  | [] => none

/-- The number of days of a month. -/
def daysInMonth (year month : Nat) : Nat :=
  if month = 2 then (if year % 4 = 0 ∧ (year % 100 ≠ 0 ∨ year % 400 = 0) then 29 else 28)
  else if [4, 6, 9, 11].contains month then 30
  else 31

/-- The input after a date. -/
def date? (cs : List Char) : Option (List Char) := do
  let (year, cs) ← fixed? 4 0 9999 cs
  let (month, cs) ← expect? '-' cs >>= fixed? 2 1 12
  let (_, cs) ← expect? '-' cs >>= fixed? 2 1 (daysInMonth year month)
  return cs

/-- The input after a time of day. -/
def time? (cs : List Char) : Option (List Char) := do
  let (_, cs) ← fixed? 2 0 23 cs
  let (_, cs) ← expect? ':' cs >>= fixed? 2 0 59
  let (_, cs) ← expect? ':' cs >>= fixed? 2 0 60
  match cs with
  | '.' :: cs => if (cs.takeWhile Char.isDigit).isEmpty then none else return cs.dropWhile Char.isDigit
  | cs => return cs

/-- The input after an offset from universal time, if it begins with one. -/
def skipOffset (cs : List Char) : List Char :=
  match cs with
  | 'Z' :: cs | 'z' :: cs => cs
  | c :: cs =>
    if c = '+' ∨ c = '-' then
      match fixed? 2 0 23 cs >>= fun (_, cs) => expect? ':' cs >>= fixed? 2 0 59 with
      | some (_, rest) => rest
      | none => c :: cs
    else c :: cs
  | [] => []

/-- A date, a time, or both, as written. -/
def dateTime? (cs : List Char) : Option (String × List Char) :=
  let rest? :=
    match date? cs with
    | some afterDate =>
      match afterDate with
      | c :: rest =>
        if c = 'T' ∨ c = 't' ∨ c = ' ' then
          match time? rest with
          | some rest => some (skipOffset rest)
          | none => some afterDate
        else some afterDate
      | [] => some []
    | none => time? cs
  rest?.map fun rest => (String.ofList (cs.take (cs.length - rest.length)), rest)

end ScenarioStubs.Toml
