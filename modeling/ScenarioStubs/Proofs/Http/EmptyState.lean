import ScenarioStubs.Proofs.Engine.Mappings
import ScenarioStubs.Proofs.Engine.Reentry
import ScenarioStubs.Proofs.Http.Run
import ScenarioStubs.Proofs.Since

/-!
# Scenarios in the empty state

No mapping that a message registers requires the empty state or sets it (`valid_of_mem_mappings_after`). A message that
asks for a scenario to be put into a state is not held to that: it may ask for the empty one, and that is how a scenario
comes to be in it, and the only way (`empty_state_iff_put`). While it is, no mapping that requires a state of it is
served in its session.
-/

namespace ScenarioStubs

namespace StubMapping

variable {m : StubMapping} {n : String}

theorem Valid.move?_ne_empty (h : m.Valid) : m.move? ≠ some (n, "") := by
  intro hmove
  obtain ⟨rule, hrule, -, hnew⟩ := move?_eq_some_iff.mp hmove
  exact (h.rule rule hrule).new hnew

theorem Valid.not_requires_empty (h : m.Valid) : ¬m.Requires n "" := by
  rintro ⟨rule, hrule, -, hrequired⟩
  exact (h.rule rule hrule).required hrequired

end StubMapping

namespace Http

/-- The message asks for a known scenario of the session that it presents to be put into the state `v`: its path names
the scenario and its body the state, or no state if `v` is the start state. -/
def PutsState (s : SessionId) (n v : String) (e : Engine) (x : Exchange) : Prop :=
  ∃ segment state, AdminRoute.ofMessage? x.message = some (.setScenarioState segment) ∧
    requestedState? x.message.body = some state ∧ state.getD startState = v ∧ Percent.decode? segment = some n ∧
    sessionOf e x.message = s ∧ e.registry.knowsScenario n = true

/-- What the message asks for ends the state of a pair: the session is left without an entry, the scenario is put into a
state there, or a mapping that moves it is served there. -/
def EndsState (s : SessionId) (n : String) (e : Engine) (x : Exchange) : Prop :=
  ∃ c, call? e.config x = some c ∧ e.Ends c s n

variable {e : Engine} {x : Exchange} {c : Call} {m : StubMapping} {s : SessionId} {n v : String}

theorem asked_of_call? {config : EngineConfig} (h : call? config x = some c) :
    Asked config x.fresh x.message c.operation := by
  obtain ⟨op, hop, rfl⟩ := Option.map_eq_some_iff.mp h
  exact asked_of_operation? hop

/-- A message gives no mapping but a definition. -/
theorem givesMade_of_call? {config : EngineConfig} (h : call? config x = some c) : c.operation.GivesMade := by
  have hasked := asked_of_call? h
  generalize c.operation = op at hasked
  cases hasked <;> trivial

/-- Every mapping that messages have registered is valid. -/
theorem valid_of_mem_mappings_after {config : EngineConfig} {xs : List Exchange}
    (h : m ∈ (after (.new config) xs).registry.mappings) : m.Valid := by
  rw [after_eq] at h
  refine Engine.valid_of_mem_mappings_after ?_ h
  intro c hc
  obtain ⟨x, -, hcall⟩ := List.mem_filterMap.mp hc
  exact givesMade_of_call? hcall

/-! ## One exchange -/

theorem call?_of_putsState (h : PutsState s n v e x) :
    call? e.config x = some ⟨x.now, .setScenarioState s n v⟩ ∧ e.registry.knowsScenario n = true := by
  obtain ⟨segment, state, hroute, hbody, rfl, hname, rfl, hknown⟩ := h
  refine ⟨?_, hknown⟩
  unfold call? operation?
  rw [hroute]
  dsimp only [AdminRoute.operation?]
  rw [hbody, Option.bind_some, hname]
  rfl

theorem putsState_of_puts (hcall : call? e.config x = some c) (h : e.Puts c s n v) : PutsState s n v e x := by
  obtain ⟨hop, hknown⟩ := h
  have hasked := asked_of_call? hcall
  generalize c.operation = op at hasked hop
  cases hasked with
  | @setScenarioState segment name state hroute hbody hname =>
    rcases hop with hop | ⟨hop, -⟩
    · cases hop
      exact ⟨segment, state, hroute, hbody, rfl, hname, rfl, hknown⟩
    · cases hop
  | serve | registerDefinition | removeStub | reset | resetScenarios | scenarios =>
    rcases hop with hop | ⟨hop, -⟩ <;> cases hop

/-- A pair is in the empty state after an exchange if it was put into it, or was in it and the exchange did not end
that. -/
theorem peek_step_eq_empty_iff (hvalid : ∀ m ∈ e.registry.mappings, m.Valid) :
    (step e x).store.peek s n = some "" ↔ PutsState s n "" e x ∨ e.store.peek s n = some "" ∧ ¬EndsState s n e x := by
  rw [step_eq]
  cases hcall : call? e.config x with
  | none =>
    -- A message that asks for no operation neither puts a pair into a state nor ends one.
    have hputs : ¬PutsState s n "" e x := fun h => nomatch hcall.symm.trans (call?_of_putsState h).1
    have hends : ¬EndsState s n e x := fun ⟨c, hc, _⟩ => nomatch hcall.symm.trans hc
    simp [hputs, hends]
  | some c =>
    have hputs : PutsState s n "" e x ↔ e.Puts c s n "" := by
      constructor
      · intro h
        obtain ⟨hc, hknown⟩ := call?_of_putsState h
        cases hcall.symm.trans hc
        exact ⟨.inl rfl, hknown⟩
      · exact putsState_of_puts hcall
    have hends : EndsState s n e x ↔ e.Ends c s n := by
      unfold EndsState
      simp [hcall]
    rw [hputs, hends]
    exact Engine.peek_step_eq_some_iff (by decide) fun m hm => (hvalid m hm).move?_ne_empty

/-! ## Runs -/

/-- **A scenario is in the empty state exactly if it was put there.** Whatever messages a new engine has answered, a
scenario is stored in the empty state for a session exactly if an earlier message put it into that state, and none since
has ended that. As long as it is, no mapping that requires a state of the scenario is served in the session. -/
theorem empty_state_iff_put (config : EngineConfig) (xs : List Exchange) (s : SessionId) (n : String) (j : Nat) :
    ((after (.new config) (xs.take j)).store.peek s n = some "" ↔
        ∃ i < j, At (PutsState s n "") (.new config) xs i ∧ ∀ k, i < k → k < j →
          ¬At (EndsState s n) (.new config) xs k) ∧
      ((after (.new config) (xs.take j)).store.peek s n = some "" → ∀ c m required, m.Requires n required →
        ¬(after (.new config) (xs.take j)).Serves c s m) := by
  constructor
  · apply holds_iff_begun_since_entry fun xs => (after (.new config) xs).store.peek s n = some ""
    · have hnone : (Engine.new config).store.peek s n = none := Store.peek_of_none (Store.sessions_empty s) n
      intro hpeek
      cases hnone.symm.trans hpeek
    · intro j x hx
      rw [after_take_succ hx]
      exact peek_step_eq_empty_iff fun m hm => valid_of_mem_mappings_after hm
  · intro hpeek c m required hrequires hserves
    have hstate : (after (.new config) (xs.take j)).store.effectiveState s n = "" := by
      unfold Store.effectiveState
      rw [hpeek]
      rfl
    have hrequired : required = "" := (hserves.effectiveState_of_requires hrequires).symm.trans hstate
    rw [hrequired] at hrequires
    exact (valid_of_mem_mappings_after hserves.mem_mappings).not_requires_empty hrequires

/-- A definition that sets the empty state is refused, and then a message puts the scenario of the shared session into
it. -/
theorem empty_state_put_and_stored :
    let fresh : Fresh := ⟨⟨"f", by decide⟩, ⟨1⟩⟩
    let refused : Exchange := ⟨⟨0⟩, fresh, {
      method := "POST", target := ⟨"/__admin/mappings", none⟩,
      body := Utf8.encode "\x7b\"scenarioName\":\"S\",\"newScenarioState\":\"\"\x7d" }⟩
    let created : Exchange := ⟨⟨1⟩, fresh, {
      method := "POST", target := ⟨"/__admin/mappings", none⟩,
      body := Utf8.encode "\x7b\"scenarioName\":\"S\",\"requiredScenarioState\":\"Started\"\x7d" }⟩
    let put : Exchange := ⟨⟨2⟩, fresh, {
      method := "PUT", target := ⟨"/__admin/scenarios/S/state", none⟩, body := Utf8.encode "\x7b\"state\":\"\"\x7d" }⟩
    let xs := [refused, created, put]
    (replies (.new {}) xs).map (·.2.status) = [400, 201, 200] ∧
      (after (.new {}) xs).store.peek .global "S" = some "" := by
  intro fresh refused created put xs
  constructor
  · decide +kernel
  · decide +kernel

end Http

end ScenarioStubs
