import ScenarioStubs.Regex.Ast
import ScenarioStubs.Text.Ascii
import ScenarioStubs.Text.WhiteSpace
import ScenarioStubs.Unicode.Case

/-!
# Parsing regular expressions

A pattern is read from left to right. While white space is ignored (flag `x`), blanks and comments from `#` to the end
of the line may stand between tokens. The flag is in force from where it is set to the end of the group around it.
-/

namespace ScenarioStubs.Regex

/-- Why a text is no regular expression. -/
inductive SyntaxError
  | classEscape
  | classRange
  | classUnclosed
  | escapeUnknown
  | escapeUnfinished
  | flagDuplicate
  | flagDangling
  | flagUnknown
  | groupName
  | groupUnclosed
  | groupUnopened
  | hexadecimal
  | lookAround
  | nestingTooDeep
  | propertyUnknown
  | repetitionCount
  | repetitionMissing
  | tooLarge
  | unicodeRequired
  | wordBoundary
  deriving DecidableEq

/-- A result, most often together with the pattern after it. -/
abbrev Parse := Except SyntaxError

/-! ## Ignored white space -/

/-- The pattern after its leading blanks and comments; the flag tells whether a comment is open. -/
def skipFiller : Bool → List Char → List Char
  | _, [] => []
  | true, c :: cs => skipFiller (c != '\n') cs
  | false, c :: cs =>
    if Text.isWhiteSpace c then skipFiller false cs
    else if c = '#' then skipFiller true cs
    else c :: cs

/-- The next token of a pattern, blanks and comments passed over if they are ignored. -/
def skip (verbose : Bool) (cs : List Char) : List Char := if verbose then skipFiller false cs else cs

/-- The character after the next one, where white space is ignored; a comment sign hides one character only. -/
def peekFiller : Bool → List Char → Option Char
  | _, [] => none
  | inComment, c :: cs =>
    if Text.isWhiteSpace c then peekFiller inComment cs
    else if !inComment && c = '#' then peekFiller true cs
    else some c

/-- The character that follows the next one. -/
def peekPast (verbose : Bool) (cs : List Char) : Option Char :=
  if verbose then peekFiller false (cs.drop 1) <|> (cs.drop 1).head? else (cs.drop 1).head?

/-! ## Escapes -/

/-- Something that stands for one place or one character. -/
inductive Primitive
  | literal (l : Literal)
  | dot
  | assertion (a : Assertion)
  | klass (c : ClassTree)

/-- A character that stands for itself. -/
def Primitive.verbatim (c : Char) : Primitive := .literal ⟨c, false⟩

/-- Whether a character has a meaning of its own in some place of a pattern. -/
def isMeta (c : Char) : Bool := "\\.+*?()|[]\x7b\x7d^$#&-~".toList.contains c

/-- Whether a character may be escaped to stand for itself: a meta character, or one of ASCII that is neither a letter
nor a digit nor an angle bracket. -/
def isEscapable (c : Char) : Bool :=
  isMeta c || (c.toNat < 128 && !c.isAlphanum && c != '<' && c != '>')

/-- The character with a given code point. -/
def charOf? (n : Nat) : Option Char := if h : n.isValidChar then some (Char.ofNatAux n h) else none

/-- A fixed number of hexadecimal digits. -/
def fixedHex (verbose : Bool) : Nat → List Char → List Char → Parse (List Char × List Char)
  | 0, found, cs => .ok (found.reverse, cs)
  | count + 1, found, cs =>
    match cs with
    | [] => .error .escapeUnfinished
    | c :: cs =>
      if (Text.hexDigit? c).isSome then fixedHex verbose count (c :: found) (skip verbose cs)
      else .error .hexadecimal

/-- The text up to a closing brace without its filler, and the pattern after the brace. -/
def bracedText (verbose : Bool) : Nat → List Char → List Char → Parse (List Char × List Char)
  | 0, _, _ => .error .escapeUnfinished
  | bound + 1, found, cs =>
    match skip verbose cs with
    | [] => .error .escapeUnfinished
    | c :: cs => if c = '\x7d' then .ok (found.reverse, cs) else bracedText verbose bound (c :: found) cs

/-- The character of a hexadecimal escape, after its letter. -/
def hexEscape (verbose : Bool) (width : Nat) (cs : List Char) : Parse (Literal × List Char) := do
  match skip verbose cs with
  | [] => .error .escapeUnfinished
  | '\x7b' :: cs =>
    let (digits, cs) ← bracedText verbose (cs.length + 1) [] cs
    match digits, (Text.hexNumber? digits).bind charOf? with
    | _ :: _, some c => .ok (⟨c, false⟩, skip verbose cs)
    | _, _ => .error .hexadecimal
  | cs =>
    let (digits, cs) ← fixedHex verbose width [] cs
    match (Text.hexNumber? digits).bind charOf? with
    | some c => .ok (⟨c, width = 2⟩, cs)
    | none => .error .hexadecimal

/-- A property query from the text between its braces. -/
def propertyQuery (text : List Char) : PropertyQuery :=
  match splitNotEqual text with
  | some (name, value) => .valued true (String.ofList name) (String.ofList value)
  | none =>
    match splitAtEither text with
    | some (name, value) => .valued false (String.ofList name) (String.ofList value)
    | none => .named (String.ofList text)
where
  /-- The parts around the first `!=`. -/
  splitNotEqual : List Char → Option (List Char × List Char)
    | '!' :: '=' :: cs => some ([], cs)
    | c :: cs => (splitNotEqual cs).map fun (before, after) => (c :: before, after)
    | [] => none
  /-- The parts around the first colon or, without one, the first equals sign. -/
  splitAtEither (cs : List Char) : Option (List Char × List Char) :=
    let around (sep : Char) :=
      if cs.contains sep then some (cs.takeWhile (· != sep), (cs.dropWhile (· != sep)).drop 1) else none
    around ':' <|> around '='

/-- The class of a property escape, after its letter. -/
def propertyEscape (verbose negated : Bool) (cs : List Char) : Parse (ClassTree × List Char) :=
  match skip verbose cs with
  | [] => .error .escapeUnfinished
  | '\x7b' :: cs => do
    let (name, cs) ← bracedText verbose (cs.length + 1) [] cs
    return (.property negated (propertyQuery name), cs)
  | c :: cs =>
    if c = '\\' then .error .propertyUnknown
    else .ok (.property negated (.named c.toString), skip verbose cs)

/-- Whether a character may stand in the name of a word boundary. -/
def isBoundaryNameChar (c : Char) : Bool := c.isAlpha || c == '-'

/-- The longest run of characters of a boundary's name. -/
def boundaryName (verbose : Bool) : Nat → List Char → List Char → List Char × List Char
  | 0, found, cs => (found.reverse, cs)
  | bound + 1, found, cs =>
    match cs with
    | c :: rest =>
      if isBoundaryNameChar c then boundaryName verbose bound (c :: found) (skip verbose rest) else (found.reverse, cs)
    | [] => (found.reverse, [])

/-- A word boundary, after its letter: a name in braces may follow, but braces that cannot hold one are left for a
repetition. -/
def wordBoundary (verbose : Bool) (cs : List Char) : Parse (Assertion × List Char) :=
  match cs with
  | '\x7b' :: inner =>
    match skip verbose inner with
    | [] => .error .wordBoundary
    | c :: rest =>
      if isBoundaryNameChar c then
        match boundaryName verbose (rest.length + 1) [] (c :: rest) with
        | (name, '\x7d' :: cs) =>
          if name = "start".toList then .ok (.wordStart, cs)
          else if name = "end".toList then .ok (.wordEnd, cs)
          else if name = "start-half".toList then .ok (.wordStartHalf, cs)
          else if name = "end-half".toList then .ok (.wordEndHalf, cs)
          else .error .wordBoundary
        | _ => .error .wordBoundary
      else .ok (.wordBoundary, cs)
  | cs => .ok (.wordBoundary, cs)

/-- What an escape stands for, after its backslash. -/
def escape (verbose : Bool) : List Char → Parse (Primitive × List Char)
  | [] => .error .escapeUnfinished
  | c :: cs =>
    if c.isDigit then .error .escapeUnknown
    else if isEscapable c then .ok (.verbatim c, cs)
    else
      let hex (width : Nat) : Parse (Primitive × List Char) :=
        (hexEscape verbose width cs).map fun (l, cs) => (.literal l, cs)
      let shorthand (negated : Bool) (kind : Shorthand) : Parse (Primitive × List Char) :=
        .ok (.klass (.shorthand negated kind), cs)
      let property (negated : Bool) : Parse (Primitive × List Char) :=
        (propertyEscape verbose negated cs).map fun (k, cs) => (.klass k, cs)
      match c with
      | 'x' => hex 2
      | 'u' => hex 4
      | 'U' => hex 8
      | 'p' => property false
      | 'P' => property true
      | 'd' => shorthand false .digit
      | 'D' => shorthand true .digit
      | 's' => shorthand false .space
      | 'S' => shorthand true .space
      | 'w' => shorthand false .word
      | 'W' => shorthand true .word
      | 'a' => .ok (.verbatim '\x07', cs)
      | 'f' => .ok (.verbatim '\x0C', cs)
      | 't' => .ok (.verbatim '\t', cs)
      | 'n' => .ok (.verbatim '\n', cs)
      | 'r' => .ok (.verbatim '\r', cs)
      | 'v' => .ok (.verbatim '\x0B', cs)
      | 'A' => .ok (.assertion .textStart, cs)
      | 'z' => .ok (.assertion .textEnd, cs)
      | 'b' => (wordBoundary verbose cs).map fun (a, cs) => (.assertion a, cs)
      | 'B' => .ok (.assertion .notWordBoundary, cs)
      | '<' => .ok (.assertion .wordStart, cs)
      | '>' => .ok (.assertion .wordEnd, cs)
      | _ => .error .escapeUnknown

/-! ## Bracketed classes -/

/-- The class of ASCII characters with a given name. -/
def asciiClass? : String → Option AsciiClass
  | "alnum" => some .alnum
  | "alpha" => some .alpha
  | "ascii" => some .ascii
  | "blank" => some .blank
  | "cntrl" => some .cntrl
  | "digit" => some .digit
  | "graph" => some .graph
  | "lower" => some .lower
  | "print" => some .print
  | "punct" => some .punct
  | "space" => some .space
  | "upper" => some .upper
  | "word" => some .word
  | "xdigit" => some .xdigit
  | _ => none

/-- A class such as `[:alpha:]` or `[:^alpha:]`, after its opening bracket; `none` if the text is something else. -/
def namedClass? : List Char → Option (ClassTree × List Char)
  | ':' :: cs =>
    let (negated, cs) := match cs with
      | '^' :: cs => (true, cs)
      | cs => (false, cs)
    match cs.dropWhile (· != ':') with
    | ':' :: ']' :: rest =>
      (asciiClass? (String.ofList (cs.takeWhile (· != ':')))).map fun kind => (.ascii negated kind, rest)
    | _ => none
  | _ => none

/-- The one item, or the union of several, given from the last. -/
def unionOf : List ClassTree → ClassTree
  | [item] => item
  | items => .union items.reverse

/-- A set with the operator and left side before it applied. -/
def combine (pending : Option (SetOperator × ClassTree)) (right : ClassTree) : ClassTree :=
  match pending with
  | some (op, left) => .combined op left right
  | none => right

/-- Hyphens at the start of a class, which stand for themselves. -/
def leadingHyphens (verbose : Bool) : Nat → List ClassTree → List Char → List ClassTree × List Char
  | 0, items, cs => (items, cs)
  | bound + 1, items, cs =>
    match cs with
    | '-' :: rest => leadingHyphens verbose bound (.literal ⟨'-', false⟩ :: items) (skip verbose rest)
    | cs => (items, cs)

/-- The start of a class, after its opening bracket: whether it is negated, and the hyphens or the closing bracket that
stand for themselves there. -/
def classStart (verbose : Bool) (cs : List Char) : Parse (Bool × List ClassTree × List Char) :=
  let cs := skip verbose cs
  let (negated, cs) := match cs with
    | '^' :: cs => (true, skip verbose cs)
    | cs => (false, cs)
  match leadingHyphens verbose (cs.length + 1) [] cs with
  | (_, []) => .error .classUnclosed
  | ([], ']' :: cs) =>
    match skip verbose cs with
    | [] => .error .classUnclosed
    | cs => .ok (negated, [.literal ⟨']', false⟩], cs)
  | (items, cs) => .ok (negated, items, cs)

/-- One end of a range, or an item of its own. -/
def classPrimitive (verbose : Bool) : List Char → Parse (Primitive × List Char)
  | [] => .error .classUnclosed
  | '\\' :: cs => escape verbose cs
  | c :: cs => .ok (.verbatim c, cs)

/-- An item of a class on its own. -/
def Primitive.toItem : Primitive → Parse ClassTree
  | .literal l => .ok (.literal l)
  | .klass c => .ok c
  | .dot | .assertion _ => .error .classEscape

/-- An item of a class as an end of a range. -/
def Primitive.toEnd : Primitive → Parse Literal
  | .literal l => .ok l
  | _ => .error .classRange

/-- A single item or a range. -/
def classItem (verbose : Bool) (cs : List Char) : Parse (ClassTree × List Char) := do
  let (first, cs) ← classPrimitive verbose cs
  match skip verbose cs with
  | [] => .error .classUnclosed
  | '-' :: rest =>
    let next := peekPast verbose ('-' :: rest)
    if next = some ']' ∨ next = some '-' then return (← first.toItem, '-' :: rest)
    match skip verbose rest with
    | [] => .error .classUnclosed
    | rest =>
      let (last, rest) ← classPrimitive verbose rest
      let first ← first.toEnd
      let last ← last.toEnd
      if first.char ≤ last.char then return (.range first last, rest) else .error .classRange
  | cs => return (← first.toItem, cs)

/-- A class from some item of it to its closing bracket. The items before that place, from the last, and the operator
before them are given. -/
def classTail (verbose : Bool) :
    Nat → Bool → List ClassTree → Option (SetOperator × ClassTree) → List Char → Parse (ClassTree × List Char)
  | 0, _, _, _, _ => .error .classUnclosed
  | bound + 1, negated, items, pending, cs =>
    let operator (op : SetOperator) (cs : List Char) : Parse (ClassTree × List Char) :=
      classTail verbose bound negated [] (some (op, combine pending (unionOf items))) cs
    match skip verbose cs with
    | [] => .error .classUnclosed
    | ']' :: cs => .ok (.bracketed negated (combine pending (unionOf items)), cs)
    | '[' :: cs =>
      match namedClass? cs with
      | some (item, cs) => classTail verbose bound negated (item :: items) pending cs
      | none => do
        let (negated', items', cs) ← classStart verbose cs
        let (item, cs) ← classTail verbose bound negated' items' none cs
        classTail verbose bound negated (item :: items) pending cs
    | '&' :: '&' :: cs => operator .intersection cs
    | '-' :: '-' :: cs => operator .difference cs
    | '~' :: '~' :: cs => operator .symmetricDifference cs
    | cs => do
      let (item, cs) ← classItem verbose cs
      classTail verbose bound negated (item :: items) pending cs

/-- A bracketed class, after its opening bracket. -/
def bracketedClass (verbose : Bool) (cs : List Char) : Parse (ClassTree × List Char) := do
  let (negated, items, cs) ← classStart verbose cs
  classTail verbose (cs.length + 1) negated items none cs

/-! ## Repetitions -/

/-- The pattern after its leading white space, whether or not that is ignored. -/
def skipBlanks (cs : List Char) : List Char := cs.dropWhile Text.isWhiteSpace

/-- The digits of a count, filler between them passed over where it is ignored. -/
def countDigits (verbose : Bool) : Nat → List Char → List Char → List Char × List Char
  | 0, found, cs => (found.reverse, cs)
  | bound + 1, found, cs =>
    match cs with
    | c :: rest => if c.isDigit then countDigits verbose bound (c :: found) (skip verbose rest) else (found.reverse, cs)
    | [] => (found.reverse, [])

/-- The pattern after white space, filler after it passed over where it is ignored. -/
def skipBlanksAnd (verbose : Bool) : Nat → List Char → List Char
  | 0, cs => cs
  | bound + 1, cs =>
    match cs with
    | c :: rest => if Text.isWhiteSpace c then skipBlanksAnd verbose bound (skip verbose rest) else c :: rest
    | [] => []

/-- A count below 2³², which blanks may surround. -/
def count (verbose : Bool) (cs : List Char) : Parse (Nat × List Char) :=
  let (digits, rest) := countDigits verbose (cs.length + 1) [] (skipBlanks cs)
  match digits, Text.decimalNumber? digits with
  | _ :: _, some n =>
    if n < UInt32.size then .ok (n, skipBlanksAnd verbose rest.length rest) else .error .repetitionCount
  | _, _ => .error .repetitionCount

/-- The bounds of a counted repetition, after its opening brace. -/
def bounds (verbose : Bool) (cs : List Char) : Parse ((Nat × Option Nat) × List Char) := do
  match ← count verbose (skip verbose cs) with
  | (n, '\x7d' :: cs) => return ((n, some n), cs)
  | (n, ',' :: cs) =>
    match skip verbose cs with
    | '\x7d' :: cs => return ((n, none), cs)
    | cs =>
      match ← count verbose cs with
      | (m, '\x7d' :: cs) => if n ≤ m then return ((n, some m), cs) else .error .repetitionCount
      | _ => .error .repetitionCount
  | _ => .error .repetitionCount

/-- The parts, from the last, with the last of them repeated. Nothing, and a change of flags, cannot be repeated. -/
def repeatLast (parts : List Ast) (min : Nat) (max : Option Nat) (greedy : Bool) : Parse (List Ast) :=
  match parts with
  | [] | .empty :: _ | .flags _ :: _ => .error .repetitionMissing
  | part :: before => .ok (.repetition part min max greedy :: before)

/-- Whether no sign of reluctance comes next, and the pattern after it. -/
def greed : List Char → Bool × List Char
  | '?' :: cs => (false, cs)
  | cs => (true, cs)

/-! ## Groups -/

/-- The flag with a given letter. -/
def flag? : Char → Option Flag
  | 'i' => some .caseInsensitive
  | 'm' => some .multiLine
  | 's' => some .dotMatchesNewLine
  | 'U' => some .swapGreed
  | 'u' => some .unicode
  | 'R' => some .crlf
  | 'x' => some .ignoreWhiteSpace
  | _ => none

/-- Flags up to the colon or the parenthesis that ends them. A flag may come once, and so may the sign that turns the
flags after it off, which needs one after it. -/
def flagChanges (changes : FlagChanges) (negating dangling : Bool) : List Char → Parse (FlagChanges × List Char)
  | [] => .error .groupUnclosed
  | c :: cs =>
    if c = ':' ∨ c = ')' then (if dangling then .error .flagDangling else .ok (changes, c :: cs))
    else if c = '-' then
      if negating then .error .flagDuplicate else flagChanges changes true true cs
    else
      match flag? c with
      | none => .error .flagUnknown
      | some f =>
        if (changes.map (·.1)).contains f then .error .flagDuplicate
        else flagChanges (changes ++ [(f, !negating)]) negating false cs

/-- The last setting of a flag, if it was changed. -/
def setting? (f : Flag) (changes : FlagChanges) : Option Bool := changes.lookup f

/-- Whether a character may stand in the name of a group. -/
def isNameChar (isFirst : Bool) (c : Char) : Bool :=
  if isFirst then c == '_' || Unicode.Chars.alphabetic.mem c
  else c == '_' || c == '.' || c == '[' || c == ']' || Unicode.Chars.alphanumeric.mem c

/-- The name of a group up to its closing angle bracket. -/
def groupName (cs : List Char) : Parse (String × List Char) :=
  let name := cs.takeWhile (· != '>')
  match name, cs.dropWhile (· != '>') with
  | c :: rest, '>' :: after =>
    if isNameChar true c && rest.all (isNameChar false) then .ok (String.ofList name, after) else .error .groupName
  | _, _ => .error .groupName

/-- What an opening parenthesis begins: a change of flags, a group that does not capture, or one that does and may have
a name. -/
inductive GroupStart
  | flags (changes : FlagChanges)
  | plain (changes : FlagChanges)
  | capture (name : Option String)

/-- The start of a group, after its opening parenthesis. -/
def groupStart (verbose : Bool) (cs : List Char) : Parse (GroupStart × List Char) :=
  match skip verbose cs with
  | '?' :: '=' :: _ | '?' :: '!' :: _ | '?' :: '<' :: '=' :: _ | '?' :: '<' :: '!' :: _ => .error .lookAround
  | '?' :: 'P' :: '<' :: cs | '?' :: '<' :: cs => (groupName cs).map fun (name, cs) => (.capture (some name), cs)
  | '?' :: cs => do
    match ← flagChanges [] false false cs with
    | ([], ')' :: _) => .error .repetitionMissing
    | (changes, ')' :: cs) => return (.flags changes, cs)
    | (changes, cs) => return (.plain changes, cs.drop 1)
  | cs => .ok (.capture none, cs)

/-! ## Patterns -/

/-- What the parser carries along: the pattern not yet read, whether white space is ignored, and the number and the
names of the captures seen so far. -/
structure Cursor where
  rest : List Char
  verbose : Bool
  captures : Nat
  names : List String

/-- The one part, or a sequence of several, given from the last. -/
def concatOf : List Ast → Ast
  | [] => .empty
  | [part] => part
  | parts => .concat parts.reverse

/-- The one branch, or alternatives, given from the last. -/
def alternationOf : List Ast → Ast
  | [] => .empty
  | [branch] => branch
  | branches => .alternation branches.reverse

/-- An expression up to the end of the group around it, or of the pattern, from a place where the branches and the
parts before it are given, each from the last. -/
def expression : Nat → List Ast → List Ast → Cursor → Parse (Ast × Cursor)
  | 0, _, _, _ => .error .nestingTooDeep
  | bound + 1, branches, parts, st =>
    let verbose := st.verbose
    let next (part : Ast) (cs : List Char) : Parse (Ast × Cursor) :=
      expression bound branches (part :: parts) { st with rest := cs }
    let repeated (min : Nat) (max : Option Nat) (cs : List Char) : Parse (Ast × Cursor) := do
      let (greedy, cs) := greed cs
      expression bound branches (← repeatLast parts min max greedy) { st with rest := cs }
    match skip verbose st.rest with
    | [] => .ok (alternationOf (concatOf parts :: branches), { st with rest := [] })
    | ')' :: cs => .ok (alternationOf (concatOf parts :: branches), { st with rest := ')' :: cs })
    | '|' :: cs => expression bound (concatOf parts :: branches) [] { st with rest := cs }
    | '(' :: cs => do
      let (start, cs) ← groupStart verbose cs
      let group (capture : Option Nat) (changes : FlagChanges) (names : List String) : Parse (Ast × Cursor) := do
        let inner := (setting? .ignoreWhiteSpace changes).getD verbose
        let captures := if capture.isSome then st.captures + 1 else st.captures
        let (body, st') ← expression bound [] [] ⟨cs, inner, captures, names⟩
        match st'.rest with
        | ')' :: cs =>
          expression bound branches (.group capture changes body :: parts) { st' with rest := cs, verbose := verbose }
        | _ => .error .groupUnclosed
      match start with
      | .flags changes =>
        expression bound branches (.flags changes :: parts)
          { st with rest := cs, verbose := (setting? .ignoreWhiteSpace changes).getD verbose }
      | .plain changes => group none changes st.names
      | .capture none => group (some st.captures) [] st.names
      | .capture (some name) =>
        if st.names.contains name then .error .groupName else group (some st.captures) [] (name :: st.names)
    | '[' :: cs => do
      let (c, cs) ← bracketedClass verbose cs
      next (.klass c) cs
    | '?' :: cs => repeated 0 (some 1) cs
    | '*' :: cs => repeated 0 none cs
    | '+' :: cs => repeated 1 none cs
    | '\x7b' :: cs => do
      let ((min, max), cs) ← bounds verbose cs
      repeated min max (skip verbose cs)
    | '.' :: cs => next .dot cs
    | '^' :: cs => next (.assertion .lineStart) cs
    | '$' :: cs => next (.assertion .lineEnd) cs
    | '\\' :: cs => do
      match ← escape verbose cs with
      | (.literal l, cs) => next (.literal l) cs
      | (.dot, cs) => next .dot cs
      | (.assertion a, cs) => next (.assertion a) cs
      | (.klass c, cs) => next (.klass c) cs
    | c :: cs => next (.literal ⟨c, false⟩) cs

/-- The greatest depth of nesting. -/
def maxDepth : Nat := 250

/-- The tree that a pattern writes. -/
def Ast.parse (pattern : List Char) : Parse Ast := do
  let (ast, st) ← expression (pattern.length + 1) [] [] ⟨pattern, false, 0, []⟩
  if st.rest.isEmpty then
    if ast.depth ≤ maxDepth then return ast else .error .nestingTooDeep
  else .error .groupUnopened

end ScenarioStubs.Regex
