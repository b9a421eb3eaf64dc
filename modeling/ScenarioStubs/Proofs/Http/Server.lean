import ScenarioStubs.Http.Server
import ScenarioStubs.Proofs.Engine.Operation

/-!
# Answers to messages

A message that names no administrative operation is served by the engine (`answer_of_stub`). The reply is that of the
stub (`Reply.ofStub`), and hands out the session if it was minted for the request (`renderEvent_of_minted`). A message
that asks for no state of a scenario asks for the start state (`answerAdmin_setScenarioState`).
-/

namespace ScenarioStubs.Http

/-- The reply of a stub, or that to a request that no stub matches. No session is handed out in it. -/
def Reply.ofStub : Option ServedStub → Reply
  | some stub => renderTemplate stub.response
  | none => .text 404 noMatchBody

/-- The reply with a session handed out in a cookie. -/
def Reply.withCookie (r : Reply) (cookie : String) : Reply :=
  { r with headers := r.headers ++ [("set-cookie", cookie)] }

variable {event : ServeEvent} {cookieName : String}

theorem renderEvent_of_no_cookie (h : (event.session.isEphemeral &&
    isHeaderValue (sessionCookie cookieName event.session.id.token)) = false) :
    renderEvent event cookieName = .ofStub event.stub := by
  unfold renderEvent
  dsimp only
  rw [h]
  cases event.stub <;> rfl

theorem renderEvent_of_kept (h : event.session.isEphemeral = false) :
    renderEvent event cookieName = .ofStub event.stub :=
  renderEvent_of_no_cookie (by rw [h, Bool.false_and])

theorem renderEvent_of_minted (h : event.session.isEphemeral = true)
    (hcookie : isHeaderValue (sessionCookie cookieName event.session.id.token) = true) :
    renderEvent event cookieName =
      (Reply.ofStub event.stub).withCookie (sessionCookie cookieName event.session.id.token) := by
  unfold renderEvent
  dsimp only
  rw [h, hcookie]
  cases event.stub <;> rfl

variable {m : Message}

theorem answer_of_stub (hstub : AdminRoute.ofMessage? m = none) (e : Engine) (now : Instant) (fresh : Fresh) :
    answer e now fresh m = (renderEvent (e.serve now fresh.session m.toRequest).1 e.config.sessions.cookieName,
      (e.serve now fresh.session m.toRequest).2) := by
  have hconfig := (e.serve_config_registry now fresh.session m.toRequest).1
  unfold answer
  rw [hstub]
  dsimp only
  unfold Engine.resolver
  rw [hconfig]
  rfl

theorem config_answer_of_stub (hstub : AdminRoute.ofMessage? m = none) (e : Engine) (now : Instant) (fresh : Fresh) :
    (answer e now fresh m).2.config = e.config := by
  rw [answer_of_stub hstub]
  exact (e.serve_config_registry now _ _).1

/-- Putting a scenario into a state, or back into the start state if no state is asked for. -/
theorem answerAdmin_setScenarioState (e : Engine) (now : Instant) (fresh : StubId) (m : Message) (segment : String) :
    answerAdmin e now fresh m (.setScenarioState segment) =
      match requestedState? m.body with
      | none => (.text 400 "invalid state JSON: ", e)
      | some state =>
        match Percent.decode? segment with
        | none => (.text 400 "scenario name is not valid UTF-8", e)
        | some name =>
          match e.setScenarioState now (sessionOf e m) name (state.getD startState) with
          | .ok e => (.text 200 "", e)
          | .error cause => (errorReply cause, e) := by
  unfold answerAdmin
  dsimp only
  cases requestedState? m.body with
  | none => rfl
  | some state =>
    cases Percent.decode? segment with
    | none => rfl
    | some name => cases state <;> rfl

/-! ## Headers of messages -/

/-- The values of a header of a message, in the order in which they arrived. -/
def Message.values (m : Message) (name : String) : List Bytes :=
  (m.headers.filter fun h => Text.sameIgnoringCase h.1 name).map (·.2)

theorem getAll_requestHeaders (m : Message) (name : String) :
    m.requestHeaders.getAll name = (m.values name).map Utf8.decodeLossy := by
  unfold Message.requestHeaders Headers.getAll Message.values
  rw [List.filter_map, List.map_map, List.map_map]
  rfl

end ScenarioStubs.Http
