import ScenarioStubs.Text.Ascii
import ScenarioStubs.Text.Split
import ScenarioStubs.Text.Utf8

/-!
# HTTP messages

What arrives at the server and what is sent back. A header name may have several values in both, and the order between
the values of one name is kept: that of arrival in a request, where the values are bytes, that of sending in a response.
The order between different names is left open, since the server sends the values of one name together. Names are in
lower case in both.
-/

namespace ScenarioStubs.Http

/-- The target of a request: a path and perhaps a query. -/
structure Target where
  path : String
  query : Option String
  deriving DecidableEq

namespace Target

/-- The target that a text writes. A fragment is no part of it. -/
def parse (s : String) : Target :=
  let cs := s.toList.takeWhile (· != '#')
  match Text.splitFirst? '?' cs with
  | some (path, query) => ⟨String.ofList path, some (String.ofList query)⟩
  | none => ⟨String.ofList cs, none⟩

/-- The path, with the query if there is one that is not empty. -/
def url (t : Target) : String :=
  match t.query with
  | none | some "" => t.path
  | some query => t.path ++ "?" ++ query

/-- The segments of the path. A slash at the end of the path ends the last segment. -/
def segments (t : Target) : List String :=
  let parts := Text.splitAll '/' (t.path.toList.drop 1)
  let parts := if 1 < parts.length ∧ parts.getLast? = some [] then parts.dropLast else parts
  parts.map String.ofList

end Target

/-- A request as it arrives. -/
structure Message where
  method : String
  target : Target
  headers : List (String × Bytes) := []
  body : Bytes := []

/-- The message with one more header, behind any earlier value of the same name. -/
def Message.addHeader (m : Message) (name : String) (value : Bytes) : Message :=
  { m with headers := m.headers ++ [(Text.lowerAscii name, value)] }

/-- A response to be sent. -/
structure Reply where
  status : UInt16
  headers : List (String × String)
  body : String
  deriving DecidableEq

/-! ## Header fields -/

/-- The longest name of a header. -/
def maxNameSize : Nat := 65535

/-- Whether a character may stand in the name of a header: those of a token, and the double quote. -/
def isNameChar (c : Char) : Bool := c.isAlphanum || "!\"#$%&'*+-.^_\x60|~".toList.contains c

/-- Whether a text may be the name of a header. -/
def isHeaderName (name : String) : Bool :=
  name != "" && name.toList.all isNameChar && name.utf8ByteSize ≤ maxNameSize

/-- Whether a text may be the value of a header: control characters other than the tab may not stand in it. -/
def isHeaderValue (value : String) : Bool :=
  value.toList.all fun c => (' ' ≤ c || c == '\t') && c != '\x7F'

end ScenarioStubs.Http
