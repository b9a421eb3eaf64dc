import ScenarioStubs.Http.Message
import ScenarioStubs.Json.Document
import ScenarioStubs.Json.Printer
import ScenarioStubs.Json.Reader

/-!
# Messages on lines

A message can be written as one line of JSON, an object with a method, a path, a list of headers and a body, and a
reply as another, with a status, headers and a body.
-/

namespace ScenarioStubs.Http

/-- The header that a pair of texts writes. -/
def headerPair? (v : Json) : Option (String × String) :=
  match v with
  | .array [n, value] => return (← Document.text? n, ← Document.text? value)
  | _ => none

/-- The message that a line writes. -/
def Message.ofLine? (line : String) : Option Message := do
  let r ← Record.of? ["method", "path", "headers", "body"] (← Json.parse? line)
  let method ← r.field? "method" Document.text? "GET"
  let path ← r.field? "path" Document.text? "/"
  let headers ← r.field? "headers" (fun v => (Document.items? v).bind fun vs => vs.mapM headerPair?) []
  let body ← r.field? "body" Document.text? ""
  let bare : Message := { method, target := .parse path, body := Utf8.encode body }
  return headers.foldl (fun m h => m.addHeader h.1 (Utf8.encode h.2)) bare

/-- The line that writes a reply. -/
def Reply.toLine (r : Reply) : String :=
  Json.render <| .fields [
    ("body", .text r.body),
    ("headers", .array (r.headers.map fun h => .texts [h.1, h.2])),
    ("status", .nat r.status.toNat)]

end ScenarioStubs.Http
