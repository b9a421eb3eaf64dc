import ScenarioStubs.Session.Headers
import ScenarioStubs.SortedMap
import ScenarioStubs.Text.Split
import ScenarioStubs.Text.WhiteSpace

/-!
# Request cookies

A `Cookie` header holds `name=value` pairs between semicolons. Of several cookies with one name the first counts.
-/

namespace ScenarioStubs

/-- The cookies of a request by name. -/
structure Cookies where
  values : SortedMap String String
  deriving DecidableEq

namespace Cookies

/-- No cookies. -/
def empty : Cookies := ⟨∅⟩

instance : Inhabited Cookies := ⟨empty⟩

/-- The jar with a cookie added, unless its name is already taken. -/
def insert (jar : Cookies) (name value : String) : Cookies := ⟨jar.values.insertNew name value⟩

/-- The value of a cookie by its exact name. -/
def get? (jar : Cookies) (name : String) : Option String := jar.values.get? name

/-- The number of cookies. -/
def size (jar : Cookies) : Nat := jar.values.size

/-- Whether there is no cookie. -/
def isEmpty (jar : Cookies) : Bool := jar.values.isEmpty

/-- The cookie that a segment of a `Cookie` header holds: the name before its first `=`, trimmed of white space, and
the value after it, trimmed of white space and then of double quotes. A segment without `=`, or with a blank name,
holds none. -/
def ofSegment? (segment : List Char) : Option (String × String) := do
  let (name, value) ← Text.splitFirst? '=' segment
  let name := Text.trim name
  if name.isEmpty then none
  else some (String.ofList name, String.ofList (Text.trimBoth (· == '"') (Text.trim value)))

/-- The cookies of a `Cookie` header, in the order written. -/
def pairsOf (header : String) : List (String × String) :=
  (Text.splitAll ';' header.toList).filterMap ofSegment?

/-- The jar with each pair of a list inserted in turn. -/
def insertAll (jar : Cookies) (pairs : List (String × String)) : Cookies :=
  pairs.foldl (fun jar p => jar.insert p.1 p.2) jar

/-- The jar with the cookies of a `Cookie` header added. -/
def addHeader (jar : Cookies) (header : String) : Cookies := jar.insertAll (pairsOf header)

/-- The jar of one `Cookie` header. -/
def parse (header : String) : Cookies := empty.addHeader header

/-- The jar of every `Cookie` header of a request, in wire order. -/
def ofHeaders (headers : Headers) : Cookies := (headers.getAll "cookie").foldl addHeader empty

end Cookies

end ScenarioStubs
