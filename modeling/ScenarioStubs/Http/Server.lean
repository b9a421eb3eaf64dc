import ScenarioStubs.Engine.Admin
import ScenarioStubs.Http.Percent
import ScenarioStubs.Http.Rendering
import ScenarioStubs.Json.Printer
import ScenarioStubs.Json.Reader

/-!
# The server

Requests below `/__admin` that name an administrative operation are answered by it (`AdminRoute.ofMessage?`); every
other request is answered by a stub. Administrative operations on scenarios act on the session that the request
presents, or on the shared one.
-/

namespace ScenarioStubs.Http

/-- An administrative operation, as a request names it. -/
inductive AdminRoute
  | createMapping
  | listMappings
  | resetMappings
  | removeMapping (id : String)
  | reset
  | resetScenarios
  | listScenarios
  | setScenarioState (name : String)
  deriving DecidableEq

/-- The administrative operation that a message names. A segment that stands for a name must not be empty. -/
def AdminRoute.ofMessage? (m : Message) : Option AdminRoute :=
  match m.method, m.target.segments with
  | "POST", ["__admin", "mappings"] => some .createMapping
  | "GET", ["__admin", "mappings"] => some .listMappings
  | "POST", ["__admin", "mappings", "reset"] => some .resetMappings
  | "DELETE", ["__admin", "mappings", id] => if id = "" then none else some (.removeMapping id)
  | "POST", ["__admin", "reset"] => some .reset
  | "POST", ["__admin", "scenarios", "reset"] => some .resetScenarios
  | "GET", ["__admin", "scenarios"] => some .listScenarios
  | "PUT", ["__admin", "scenarios", name, "state"] => if name = "" then none else some (.setScenarioState name)
  | _, _ => none

/-- Identifiers that have not been used before. -/
structure Fresh where
  session : SessionId
  stub : StubId

/-- The session that a message presents, or the shared one. -/
def sessionOf (e : Engine) (m : Message) : SessionId :=
  let headers := m.requestHeaders
  e.resolver.resolvePresented headers (Cookies.ofHeaders headers)

/-- An error as a JSON value. -/
def errorJson (message : String) : Json := .fields [("error", .text message)]

/-- The reply to a refused operation. -/
def errorReply (cause : AdminError) : Reply :=
  .json (if cause.isNotFound then 404 else 400) (errorJson cause.message)

/-- The state that the body of a request asks for; `none` for the start state, which an empty body asks for too. -/
def requestedState? (body : Bytes) : Option (Option String) := do
  if body.isEmpty then return none
  let r ← Record.of? ["state"] (← Json.parseBytes? body)
  r.field? "state" (Document.optional? Document.text?) none

/-- The reply of an administrative operation, and the engine after it. -/
def answerAdmin (e : Engine) (now : Instant) (fresh : StubId) (m : Message) : AdminRoute → Reply × Engine
  | .createMapping =>
    match (Json.parseBytes? m.body).bind MappingDefinition.decode? with
    | none => (.json 400 (errorJson "invalid mapping JSON: "), e)
    | some definition =>
      match e.registerDefinition fresh definition with
      | .ok (id, e) => (.json 201 (.fields [("id", .text id.render)]), e)
      | .error cause => (errorReply cause, e)
  | .listMappings =>
    (.json 200 (.fields [("mappings", .array e.registry.toJson), ("total", .nat e.registry.size)]), e)
  | .resetMappings | .reset => (.text 200 "", e.reset)
  | .removeMapping id =>
    match Uuid.parse? id with
    | none => (.text 400 ("invalid stub id: " ++ id), e)
    | some id =>
      match e.removeStub id with
      | .ok (_, e) => (.text 200 "", e)
      | .error cause => (errorReply cause, e)
  | .resetScenarios => (.text 200 "", e.resetScenarios)
  | .listScenarios =>
    (.json 200 (.fields [("scenarios", .array ((e.scenarios (sessionOf e m)).map ScenarioSummary.toJson))]), e)
  | .setScenarioState segment =>
    match requestedState? m.body with
    | none => (.text 400 "invalid state JSON: ", e)
    | some state =>
      match Percent.decode? segment with
      | none => (.text 400 "scenario name is not valid UTF-8", e)
      | some name =>
        let s := sessionOf e m
        let result :=
          match state with
          | some state => e.setScenarioState now s name state
          | none => e.resetScenario now s name
        match result with
        | .ok e => (.text 200 "", e)
        | .error cause => (errorReply cause, e)

/-- The reply to a message, and the engine after it. -/
def answer (e : Engine) (now : Instant) (fresh : Fresh) (m : Message) : Reply × Engine :=
  match AdminRoute.ofMessage? m with
  | some route => answerAdmin e now fresh.stub m route
  | none =>
    let (event, e) := e.serve now fresh.session m.toRequest
    (renderEvent event e.resolver.cookieName, e)

end ScenarioStubs.Http
