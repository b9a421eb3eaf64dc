import ScenarioStubs.Proofs.Engine.Choice
import ScenarioStubs.Proofs.Engine.Mappings
import ScenarioStubs.Proofs.Http.Server

/-!
# The status of a stub's reply

The reply of a stub has the status of its response if that can be sent (`status_renderEvent`). A stub that is chosen is
that of a registered mapping, and registered mappings are valid, so the status that stands for an internal error is
never put in place of another (`stub_status_sent`).
-/

namespace ScenarioStubs.Http

theorem sendableStatus_of_valid {status : UInt16} (h : 100 ≤ status ∧ status ≤ 599) :
    sendableStatus status = status := by
  obtain ⟨hlow, hhigh⟩ := h
  have hsendable : status ≤ 999 := UInt16.le_trans hhigh (by decide)
  exact if_pos ⟨hlow, hsendable⟩

/-- A cookie that is handed out does not change the status. -/
theorem status_renderEvent (event : ServeEvent) (cookieName : String) :
    (renderEvent event cookieName).status = (Reply.ofStub event.stub).status := by
  unfold renderEvent
  cases event.stub <;> dsimp only <;> split <;> rfl

variable {e : Engine} {now : Instant} {fresh : SessionId} {r : Request} {stub : ServedStub}

/-- The stub in the answer to a request is that of a registered mapping. -/
theorem mem_mappings_of_served (h : (e.serve now fresh r).1.stub = some stub) :
    ∃ m ∈ e.registry.mappings, stub = ⟨m.id, m.response⟩ := by
  obtain ⟨i, m, hbest, rfl⟩ := Engine.matchIn_fst_eq_some_iff.mp h
  exact ⟨m, List.mem_of_getElem? hbest.registered, rfl⟩

/-- **Every stub that is chosen can be sent.** Take any run of a new engine that is given mappings only that there was a
way to make; definitions, changed identifiers and replacements are among them. Every mapping that is registered at its
end has no scenario, or names its scenario and every state that it declares, and its status is one of HTTP. If a message
is answered by a stub, that is the stub of a registered mapping, and the reply has the very status of its response. -/
theorem stub_status_sent (c : EngineConfig) (calls : List Call) (hmade : ∀ call ∈ calls, call.operation.GivesMade) :
    let e := (Engine.new c).after calls
    (∀ m ∈ e.registry.mappings, m.Valid) ∧
      ∀ (now : Instant) (fresh : Fresh) (msg : Message) (stub : ServedStub), AdminRoute.ofMessage? msg = none →
        (e.serve now fresh.session msg.toRequest).1.stub = some stub →
        (∃ m ∈ e.registry.mappings, stub = ⟨m.id, m.response⟩) ∧
          (100 ≤ stub.response.status ∧ stub.response.status ≤ 599) ∧
          (answer e now fresh msg).1.status = stub.response.status := by
  intro e
  have hvalid : ∀ m ∈ e.registry.mappings, m.Valid := fun m hm => Engine.valid_of_mem_mappings_after hmade hm
  refine ⟨hvalid, ?_⟩
  intro now fresh msg stub hroute hserved
  obtain ⟨m, hm, hstub⟩ := mem_mappings_of_served hserved
  have hstatus : 100 ≤ stub.response.status ∧ stub.response.status ≤ 599 := by
    rw [hstub]
    exact (hvalid m hm).status
  refine ⟨⟨m, hm, hstub⟩, hstatus, ?_⟩
  calc (answer e now fresh msg).1.status
      = (renderEvent (e.serve now fresh.session msg.toRequest).1 e.config.sessions.cookieName).status := by
        rw [answer_of_stub hroute]
    _ = (Reply.ofStub (some stub)).status := by rw [status_renderEvent, hserved]
    _ = stub.response.status := sendableStatus_of_valid hstatus

/-- One mapping is built and then replaced, a definition with an empty state is refused, and the stub that is left
answers with a status at the upper end. -/
theorem stub_status_sent_of_replaced :
    let draft : MappingDraft := {
      id := some ⟨1⟩, predicate := some .always, scenarioName := some "S", newState := some "Seen",
      response := .ofStatus 201 }
    let first : StubMapping := ⟨⟨1⟩, 5, .always, some ⟨"S", none, some "Seen"⟩, .ofStatus 201⟩
    let second : StubMapping := ⟨⟨2⟩, 5, .always, none, .ofStatus 599⟩
    let refused : MappingDefinition := { scenarioName := some "S", newState := some "" }
    let calls : List Call := [⟨⟨0⟩, .register first⟩, ⟨⟨1⟩, .registerDefinition ⟨3⟩ refused⟩,
      ⟨⟨2⟩, .replaceStub ⟨1⟩ second⟩]
    let e := (Engine.new {}).after calls
    let fresh : Fresh := ⟨⟨"f", by decide⟩, ⟨4⟩⟩
    draft.build ⟨9⟩ = .ok first ∧ e.registry.ids = [⟨1⟩] ∧
      (answer e ⟨3⟩ fresh { method := "GET", target := ⟨"/x", none⟩ }).1.status = 599 := by
  intro draft first second refused calls e fresh
  have hbuild : draft.build ⟨9⟩ = .ok first := rfl
  have hbuild' : ({ predicate := some .always, response := .ofStatus 599 } : MappingDraft).build ⟨2⟩ = .ok second := rfl
  have hmade : ∀ call ∈ calls, call.operation.GivesMade := by
    intro call hcall
    simp only [calls, List.mem_cons, List.not_mem_nil, or_false] at hcall
    rcases hcall with rfl | rfl | rfl
    · exact .built hbuild
    · trivial
    · exact .built hbuild'
  obtain ⟨-, hsent⟩ := stub_status_sent {} calls hmade
  obtain ⟨-, -, hstatus⟩ := hsent ⟨3⟩ fresh { method := "GET", target := ⟨"/x", none⟩ } ⟨⟨1⟩, .ofStatus 599⟩
    (by decide +kernel) rfl
  exact ⟨hbuild, rfl, hstatus⟩

end ScenarioStubs.Http
