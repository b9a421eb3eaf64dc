import ScenarioStubs.Session.Cookies
import ScenarioStubs.Text.Utf8

/-!
# Requests to be matched

A request keeps its method in upper case, its url with the query, its headers, the cookies of its `Cookie` headers and
its body. It is built at once (`Request.ofParts`) or piece by piece (`Request.new`, `withHeader`, `withBody`), where
the cookies are read again whenever a `Cookie` header arrives.
-/

namespace ScenarioStubs

/-- A request to be matched. -/
structure Request where
  method : String
  url : String
  headers : Headers
  cookies : Cookies
  body : Bytes
  deriving DecidableEq

namespace Request

/-- A request without headers and body. -/
def new (method url : String) : Request := ⟨Text.upperAscii method, url, .empty, .empty, []⟩

/-- A request with all its parts. -/
def ofParts (method url : String) (headers : Headers) (body : Bytes) : Request :=
  ⟨Text.upperAscii method, url, headers, Cookies.ofHeaders headers, body⟩

/-- The request with one more header. -/
def withHeader (r : Request) (name value : String) : Request :=
  let headers := r.headers.push name value
  { r with
    headers
    cookies := if Text.sameIgnoringCase name "cookie" then Cookies.ofHeaders headers else r.cookies }

/-- The request with another body. -/
def withBody (r : Request) (body : Bytes) : Request := { r with body }

/-- The part of the url before its first question mark. -/
def path (r : Request) : String := String.ofList (r.url.toList.takeWhile (· != '?'))

end Request

end ScenarioStubs
