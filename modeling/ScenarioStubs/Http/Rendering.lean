import ScenarioStubs.Engine.Basic
import ScenarioStubs.Http.Message
import ScenarioStubs.Json.Printer

/-!
# Requests and responses of the engine on the wire

A message becomes a request with its header values read leniently. A served stub becomes a response with those of its
headers that may be sent, and a session minted for the request is handed out in a cookie.
-/

namespace ScenarioStubs.Http

/-- The headers of a message, their values read leniently as UTF-8. -/
def Message.requestHeaders (m : Message) : Headers := ⟨m.headers.map fun e => (e.1, Utf8.decodeLossy e.2)⟩

/-- The request that a message makes. -/
def Message.toRequest (m : Message) : Request := .ofParts m.method m.target.url m.requestHeaders m.body

/-- The body of the answer to a request that no stub matches. -/
def noMatchBody : String := "No stub mapping matched the request"

/-- The value of the header that hands a session out. -/
def sessionCookie (cookieName session : String) : String :=
  cookieName ++ "=" ++ session ++ "; Path=/; HttpOnly; SameSite=Lax"

/-- A reply with plain text. -/
def Reply.text (status : UInt16) (body : String) : Reply :=
  ⟨status, [("content-type", "text/plain; charset=utf-8")], body⟩

/-- A reply with a JSON value. -/
def Reply.json (status : UInt16) (value : Json) : Reply :=
  ⟨status, [("content-type", "application/json")], value.render⟩

/-- A status that cannot be sent becomes that of an internal error. -/
def sendableStatus (status : UInt16) : UInt16 := if 100 ≤ status ∧ status ≤ 999 then status else 500

/-- The reply of a stub, with the headers that may be sent. Names of the template that differ in case only become one
name, and its values come in ascending order of the template's names. Between different names the order is left open. -/
def renderTemplate (t : ResponseTemplate) : Reply where
  status := sendableStatus t.status
  headers := (t.headers.toList.filter fun e => isHeaderName e.1 && isHeaderValue e.2).map fun e =>
    (Text.lowerAscii e.1, e.2)
  body := t.bodyText

/-- The reply to a request. -/
def renderEvent (event : ServeEvent) (cookieName : String) : Reply :=
  let reply :=
    match event.stub with
    | some stub => renderTemplate stub.response
    | none => .text 404 noMatchBody
  let cookie := sessionCookie cookieName event.session.id.token
  if event.session.isEphemeral && isHeaderValue cookie then
    { reply with headers := reply.headers ++ [("set-cookie", cookie)] }
  else reply

end ScenarioStubs.Http
