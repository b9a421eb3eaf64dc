/-!
# JSON values

A value keeps what its text says: a number its digits, an object the order of its fields and any repeated name. A
string literal may be well formed and still name no Unicode text, by a lone surrogate escape or by bytes that are not
UTF-8; it is kept as `none`, so that a reader that has no use for the string need not refuse it.
-/

namespace ScenarioStubs

/-- A JSON value as written. -/
inductive Json
  | null
  | bool (b : Bool)
  | number (digits : String)
  | string (text : Option String)
  | array (items : List Json)
  | object (fields : List (Option String × Json))
  deriving Inhabited

namespace Json

/-- A string that holds a text. -/
def text (s : String) : Json := .string (some s)

/-- A natural number. -/
def nat (n : Nat) : Json := .number (toString n)

/-- An object with named fields, in the order given. -/
def fields (fs : List (String × Json)) : Json := .object (fs.map fun f => (some f.1, f.2))

/-- A list of texts. -/
def texts (ss : List String) : Json := .array (ss.map text)

end Json

end ScenarioStubs
