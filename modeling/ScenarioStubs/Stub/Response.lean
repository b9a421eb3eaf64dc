import ScenarioStubs.Json.Document
import ScenarioStubs.SortedMap

/-!
# Response templates

What a stub answers with: a status, headers in ascending order of their names, and perhaps a body.
-/

namespace ScenarioStubs

/-- The answer of a stub. -/
structure ResponseTemplate where
  status : UInt16 := 200
  headers : SortedMap String String := ∅
  body : Option String := none
  deriving DecidableEq

namespace ResponseTemplate

/-- A response with a status alone. -/
def ofStatus (status : UInt16) : ResponseTemplate := { status }

/-- The response with a header set; a name keeps one value. -/
def withHeader (r : ResponseTemplate) (name value : String) : ResponseTemplate :=
  { r with headers := r.headers.insert name value }

/-- The response with a body. -/
def withBody (r : ResponseTemplate) (body : String) : ResponseTemplate := { r with body := some body }

/-- The body, empty if there is none. -/
def bodyText (r : ResponseTemplate) : String := r.body.getD ""

/-- Whether the status is one of HTTP. -/
def hasValidStatus (r : ResponseTemplate) : Bool := 100 ≤ r.status && r.status ≤ 599

/-- The written form; an absent body and an empty list of headers are left out. -/
def toJson (r : ResponseTemplate) : Json :=
  .fields <|
    (match r.body with
      | some body => [("body", Json.text body)]
      | none => []) ++
    (if r.headers.isEmpty then []
      else [("headers", .fields (r.headers.toList.map fun e => (e.1, Json.text e.2)))]) ++
    [("status", .nat r.status.toNat)]

variable {δ : Type} [Document δ]

/-- Headers written as a table of texts; the last value of a name counts. -/
def decodeHeaders? (d : δ) : Option (SortedMap String String) := do
  let fields ← Document.fields? d
  let pairs ← fields.mapM fun f => (Document.text? f.2).map (f.1, ·)
  return .ofList pairs

/-- The response that a document writes. -/
def decode? (d : δ) : Option ResponseTemplate := do
  let r ← Record.of? ["status", "headers", "body"] d
  let status ← r.field? "status" (Document.natBelow? 65536) 200
  let headers ← r.field? "headers" decodeHeaders? ∅
  let body ← r.field? "body" (Document.optional? Document.text?) none
  return { status := status.toUInt16, headers, body }

end ResponseTemplate

end ScenarioStubs
