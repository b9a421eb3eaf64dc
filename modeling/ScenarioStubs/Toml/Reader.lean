import ScenarioStubs.Toml.Lexical
import ScenarioStubs.Toml.Tree

/-!
# Reading TOML

A document is a sequence of lines: blank ones, headers, and keys with values. Keys add to the table of the last header
before them. Arrays may run over several lines, inline tables may not.
-/

namespace ScenarioStubs.Toml

/-- The depth from which arrays, inline tables and dotted keys are refused. -/
def maxDepth : Nat := 80

/-- A key of less than the greatest depth, split into its path and its last name. -/
def splitKey? (names : List String) : Option (List String × String) :=
  if maxDepth ≤ names.length then none else names.getLast?.map (names.dropLast, ·)

mutual

/-- A value at a depth of nesting. The first argument bounds the number of values and brackets still to be read. -/
def value? : Nat → Nat → List Char → Option (Value × List Char)
  | 0, _, _ => none
  | bound + 1, depth, cs =>
    match cs with
    | '[' :: cs => if maxDepth ≤ depth + 1 then none else items? bound (depth + 1) [] cs
    | '\x7b' :: cs =>
      if maxDepth ≤ depth + 1 then none
      else
        match skipBlanks cs with
        | '\x7d' :: cs => some (.table [], cs)
        | cs => inlineTable? bound (depth + 1) Node.fresh cs
    | 't' :: 'r' :: 'u' :: 'e' :: cs => some (.boolean true, cs)
    | 'f' :: 'a' :: 'l' :: 's' :: 'e' :: cs => some (.boolean false, cs)
    | cs =>
      (string? cs).map (fun (s, cs) => (.string s, cs)) <|> (dateTime? cs).map (fun (s, cs) => (.dateTime s, cs)) <|>
        (float? cs).map (fun (s, cs) => (.float s, cs)) <|> (integer? cs).map (fun (n, cs) => (.integer n, cs))

/-- The rest of an array, behind the items of `found` (last first). -/
def items? : Nat → Nat → List Value → List Char → Option (Value × List Char)
  | 0, _, _, _ => none
  | bound + 1, depth, found, cs =>
    match skipLines cs.length cs with
    | ']' :: cs => some (.array found.reverse, cs)
    | cs =>
      match value? bound depth cs with
      | none => none
      | some (v, cs) =>
        match skipLines cs.length cs with
        | ',' :: cs => items? bound depth (v :: found) cs
        | ']' :: cs => some (.array (v :: found).reverse, cs)
        | _ => none

/-- The rest of an inline table, added to the entries read so far. -/
def inlineTable? : Nat → Nat → Node → List Char → Option (Value × List Char)
  | 0, _, _, _ => none
  | bound + 1, depth, table, cs =>
    match key? (cs.length + 1) cs with
    | some (names, '=' :: cs) =>
      match splitKey? names, value? bound depth (skipBlanks cs) with
      | some (path, name), some (v, cs) =>
        match table.addKey path name v with
        | none => none
        | some table =>
          match skipBlanks cs with
          | ',' :: cs => inlineTable? bound depth table cs
          | '\x7d' :: cs => some (table.toValue, cs)
          | _ => none
      | _, _ => none
    | _ => none

end

/-- A line of a document that says something. -/
inductive Line
  | pair (path : List String) (name : String) (v : Value)
  | header (path : List String) (name : String)
  | itemHeader (path : List String) (name : String)

/-- A header after its opening bracket, up to the end of the line. -/
def header? (cs : List Char) : Option (Line × List Char) :=
  match cs with
  | '[' :: cs => do
    let (names, cs) ← key? (cs.length + 1) cs
    let (path, name) ← splitKey? names
    match cs with
    | ']' :: ']' :: cs => (lineEnd? cs).map (.itemHeader path name, ·)
    | _ => none
  | cs => do
    let (names, cs) ← key? (cs.length + 1) cs
    let (path, name) ← splitKey? names
    match cs with
    | ']' :: cs => (lineEnd? cs).map (.header path name, ·)
    | _ => none

/-- A key with its value, up to the end of the line. -/
def pair? (cs : List Char) : Option (Line × List Char) := do
  let (names, cs) ← key? (cs.length + 1) cs
  let (path, name) ← splitKey? names
  match cs with
  | '=' :: cs =>
    let (v, cs) ← value? (2 * cs.length + 1) 0 (skipBlanks cs)
    (lineEnd? cs).map (.pair path name v, ·)
  | _ => none

/-- The lines of a document, behind those of `found` (last first). -/
def lines? : Nat → List Line → List Char → Option (List Line)
  | 0, _, _ => none
  | bound + 1, found, cs =>
    match skipBlanks cs with
    | [] => some found.reverse
    | '#' :: cs => (lineEnd? ('#' :: cs)).bind (lines? bound found)
    | '[' :: cs => (header? cs).bind fun (line, cs) => lines? bound (line :: found) cs
    | cs =>
      match newline? cs with
      | some cs => lines? bound found cs
      | none => (pair? cs).bind fun (line, cs) => lines? bound (line :: found) cs

/-- The document with a line added, and the path of the table that is open after it. -/
def addLine (root : Node) (current : List String) : Line → Option (Node × List String)
  | .pair path name v => (root.descend false (Node.addKey path name v) current).map (·, current)
  | .header path name => (root.descend false (Node.openTable name) path).map (·, path ++ [name])
  | .itemHeader path name => (root.descend false (Node.openTables name) path).map (·, path ++ [name])

/-- The document with several lines added. -/
def addLines : List Line → Node → List String → Option Node
  | [], root, _ => some root
  | line :: rest, root, current => (addLine root current line).bind fun (root, current) => addLines rest root current

/-- The table that a document writes. A byte order mark may open it. -/
def parse? (text : String) : Option Value :=
  let cs := match text.toList with
    | '\uFEFF' :: cs => cs
    | cs => cs
  (lines? (cs.length + 1) [] cs).bind fun lines => (addLines lines Node.fresh []).map Node.toValue

end ScenarioStubs.Toml
