import ScenarioStubs.Proofs.Engine.Asking

/-!
# What becomes of the state of a pair

The state that the store holds for a session and a scenario changes in four ways only (`Engine.Becomes`): the call drops
the session, puts the pair into a state (`Engine.Puts`), is served there by a mapping that moves the scenario, or names
the scenario there for the first time. In every other case the pair is left as it is (`becomes_step`). Apart from
putting and dropping, all of it is done by the match of a request (`peek_step_of_not_forced`).

So a pair is in a state that is not the start state and that no mapping moves the scenario to exactly if it was put into
it, or was in it before and the call did not end that (`peek_step_eq_some_iff`).
-/

namespace ScenarioStubs

/-- The operation asks for a pair to be put into a state. -/
def Operation.Forces (s : SessionId) (n : String) : Operation → Prop
  | .setScenarioState t name _ | .resetScenario t name => s = t ∧ n = name
  | _ => False

instance Operation.Forces.decidable (s : SessionId) (n : String) : (op : Operation) → Decidable (op.Forces s n)
  | .setScenarioState t name _ | .resetScenario t name => inferInstanceAs (Decidable (s = t ∧ n = name))
  | .serve .. | .matchIn .. | .resetSession .. | .scenarios .. | .register .. | .registerDefinition ..
  | .replaceStub .. | .removeStub .. | .clearStubs | .resetScenarios | .reset | .evictExpired .. | .evictIdle .. =>
    .isFalse id

namespace Engine

/-- The call puts a pair into the state `v`: it asks for that, and some mapping is bound to the scenario. -/
structure Puts (e : Engine) (c : Call) (s : SessionId) (n v : String) : Prop where
  asked : c.operation = .setScenarioState s n v ∨ c.operation = .resetScenario s n ∧ v = startState
  known : e.registry.knowsScenario n = true

/-- The call ends the state of a pair: it leaves the session without an entry, puts the pair into a state, or is served
there by a mapping that moves the scenario. -/
inductive Ends (e : Engine) (c : Call) (s : SessionId) (n : String) : Prop
  | gone (hgone : (e.step c).store.sessions[s]? = none)
  | put {v : String} (hputs : e.Puts c s n v)
  | moved {m : StubMapping} {v : String} (hserves : e.Serves c s m) (hmove : m.move? = some (n, v))

/-- What becomes of the state that the store holds for a pair by a call. -/
inductive Becomes (e : Engine) (c : Call) (s : SessionId) (n : String) : Option String → Prop
  | gone (hgone : (e.step c).store.sessions[s]? = none) : Becomes e c s n none
  | put {v : String} (hputs : e.Puts c s n v) : Becomes e c s n (some v)
  | moved {m : StubMapping} {v : String} (hserves : e.Serves c s m) (hmove : m.move? = some (n, v)) :
    Becomes e c s n (some v)
  | begun {r : Request} (hasks : c.operation.Asks e.config s r) (hnames : e.Names r n)
    (hnew : e.store.peek s n = none) : Becomes e c s n (some startState)
  | kept (hkept : ¬e.Ends c s n) : Becomes e c s n (e.store.peek s n)

variable {e : Engine} {c : Call} {op : Operation} {s : SessionId} {n v : String} {r : Request} {m : StubMapping}

/-! ## Putting -/

theorem step_of_puts (h : e.Puts c s n v) : e.step c = { e with store := e.store.setState c.now s n v } := by
  have hset : (e.perform c.now (.setScenarioState s n v)).2 = { e with store := e.store.setState c.now s n v } := by
    rw [perform_setScenarioState, if_pos h.known]
  obtain ⟨now, op⟩ := c
  rcases h.asked with rfl | ⟨rfl, rfl⟩
  · exact hset
  · exact hset

theorem peek_step_of_puts (h : e.Puts c s n v) : (e.step c).store.peek s n = some v := by
  rw [step_of_puts h]
  exact (Store.peek_setState e.store s s c.now n v n).trans (if_pos ⟨rfl, rfl⟩)

/-- A pair is put into a state when that is asked for, unless no mapping is bound to the scenario. -/
theorem exists_puts_iff : (∃ v, e.Puts c s n v) ↔ c.operation.Forces s n ∧ e.registry.knowsScenario n = true := by
  obtain ⟨now, op⟩ := c
  constructor
  · rintro ⟨v, hasked, hknown⟩
    refine ⟨?_, hknown⟩
    rcases hasked with rfl | ⟨rfl, -⟩
    · exact ⟨rfl, rfl⟩
    · exact ⟨rfl, rfl⟩
  · rintro ⟨hforces, hknown⟩
    cases op with
    | setScenarioState t name state =>
      obtain ⟨rfl, rfl⟩ := hforces
      exact ⟨state, .inl rfl, hknown⟩
    | resetScenario t name =>
      obtain ⟨rfl, rfl⟩ := hforces
      exact ⟨startState, .inr ⟨rfl, rfl⟩, hknown⟩
    | serve | matchIn | resetSession | scenarios | register | registerDefinition | replaceStub | removeStub | clearStubs
      | resetScenarios | reset | evictExpired | evictIdle => exact hforces.elim

/-! ## After the match -/

theorem peek_serve (now : Instant) (fresh : SessionId) (r : Request) :
    (e.serve now fresh r).2.store.sessions[s]? = none ∨ (e.serve now fresh r).2.store.peek s n =
      (e.matchIn now (e.resolveSession fresh r).id r).2.store.peek s n := by
  rw [serve_eq]
  dsimp only
  split
  · refine (Store.peek_of_filter s (sessions_recordMinted _ now _ s) n).imp_right ?_
    intro hpeek
    rw [hpeek, Store.peek_markMinted]
  · exact .inr (Store.peek_adopt _ _ s n)

theorem peek_perform_set (now : Instant) (t : SessionId) (name state : String)
    (hforced : s = t ∧ n = name → e.registry.knowsScenario n = false) :
    (e.perform now (.setScenarioState t name state)).2.store.peek s n = e.store.peek s n := by
  rw [perform_setScenarioState]
  split
  case isTrue hknown =>
    refine (Store.peek_setState e.store t s now name state n).trans (if_neg ?_)
    intro h
    have hunknown := hforced h
    rw [h.2, hknown] at hunknown
    cases hunknown
  case isFalse => rfl

/-- What a call does after the match of its request, or instead, leaves a pair as it is or drops the entry of the
session, unless the call puts the pair into a state. -/
theorem peek_step_of_not_forced (hforced : c.operation.Forces s n → e.registry.knowsScenario n = false) :
    (e.step c).store.sessions[s]? = none ∨
      (e.step c).store.peek s n = (e.matched c.now c.operation).store.peek s n := by
  obtain ⟨now, op⟩ := c
  show (e.perform now op).2.store.sessions[s]? = none ∨
    (e.perform now op).2.store.peek s n = (e.matched now op).store.peek s n
  cases op with
  | serve fresh r => exact peek_serve now fresh r
  | setScenarioState t name state => exact .inr (peek_perform_set now t name state hforced)
  | resetScenario t name => exact .inr (peek_perform_set now t name startState hforced)
  | resetSession t =>
    have hsessions := Store.sessions_resetSession e.store t s
    by_cases hst : s = t
    · exact .inl (hsessions.trans (if_pos hst))
    · exact .inr (Store.peek_congr s (hsessions.trans (if_neg hst)) n)
  | register | registerDefinition | replaceStub | removeStub | clearStubs =>
    exact .inr (congrArg (·.peek s n) (store_perform_of_editsMappings e now rfl))
  | resetScenarios | reset => exact .inl (Store.sessions_resetAll e.store s)
  | evictExpired reading => exact Store.peek_of_filter s (sessions_evictExpired e reading s) n
  | evictIdle reading limit => exact Store.peek_of_filter s (Store.sessions_evictWhere e.store s _) n
  | matchIn | scenarios => exact .inr rfl

/-! ## The match -/

/-- A mapping that serves a request in a session makes its move there. -/
theorem Serves.moves (h : e.Serves c s m) (hasks : c.operation.Asks e.config s r) (hmove : m.move? = some (n, v)) :
    e.Moves s r n v := by
  obtain ⟨r', i, hasks', hbest⟩ := h
  obtain ⟨-, rfl⟩ := hasks.unique hasks'
  obtain ⟨rule, hrule⟩ := StubMapping.move?_eq_some_iff.mp hmove
  exact ⟨i, m, rule, hbest, hrule⟩

/-- What moves a scenario is the move of the mapping that serves. -/
theorem exists_serves_of_moves (hasks : c.operation.Asks e.config s r) (h : e.Moves s r n v) :
    ∃ m, e.Serves c s m ∧ m.move? = some (n, v) := by
  obtain ⟨i, m, rule, hbest, hrule⟩ := h
  exact ⟨m, ⟨r, i, hasks, hbest⟩, StubMapping.move?_eq_some_iff.mpr ⟨rule, hrule⟩⟩

theorem peek_matched_of_asks (hasks : op.Asks e.config s r) (now : Instant) :
    (e.matched now op).store.peek s n = if n ∈ e.touched r then some (e.stateAfter s r n) else e.store.peek s n := by
  have hpeek := peek_storeAfter (e := e) (s := s) (r := r) now s n
  rw [matched_of_asks hasks]
  simpa using hpeek

/-- A match in another session leaves the pair as it is. -/
theorem peek_matched_of_not_asks (hasks : ∀ r, ¬op.Asks e.config s r) (now : Instant) :
    (e.matched now op).store.peek s n = e.store.peek s n := by
  cases op with
  | serve fresh r =>
    rw [matched_of_asks (.serve fresh r)]
    refine (peek_storeAfter now s n).trans (if_neg ?_)
    intro h
    exact hasks r (.of_id h.1.symm)
  | matchIn t r =>
    rw [matched_of_asks (.matchIn t r)]
    refine (peek_storeAfter now s n).trans (if_neg ?_)
    rintro ⟨rfl, -⟩
    exact hasks r (.matchIn s r)
  | _ => rfl

/-- A pair that is neither put into a state nor dropped is left as the match made it. -/
theorem becomes_matched (hunput : ¬∃ v, e.Puts c s n v) (hstored : (e.step c).store.sessions[s]? ≠ none) :
    e.Becomes c s n ((e.matched c.now c.operation).store.peek s n) := by
  have hkept : (∀ m v, e.Serves c s m → m.move? ≠ some (n, v)) → ¬e.Ends c s n := by
    rintro hunmoved (hgone | hputs | ⟨hserves, hmove⟩)
    · exact hstored hgone
    · exact hunput ⟨_, hputs⟩
    · exact hunmoved _ _ hserves hmove
  by_cases hasks : ∃ r, c.operation.Asks e.config s r
  case neg =>
    -- Whatever the call does in other sessions, no mapping serves in this one.
    rw [peek_matched_of_not_asks (not_exists.mp hasks)]
    apply Becomes.kept
    apply hkept
    rintro m v ⟨r, i, h, -⟩
    exact absurd ⟨r, h⟩ hasks
  case pos =>
    obtain ⟨r, hasks⟩ := hasks
    rw [peek_matched_of_asks hasks]
    by_cases hmoves : ∃ v, e.Moves s r n v
    · obtain ⟨v, hv⟩ := hmoves
      obtain ⟨m, hserves, hmove⟩ := exists_serves_of_moves hasks hv
      rw [if_pos (mem_touched_iff.mpr hv.names), stateAfter_of_moves hv]
      exact .moved hserves hmove
    · have hkept : ¬e.Ends c s n := hkept fun m v hserves hmove => hmoves ⟨v, hserves.moves hasks hmove⟩
      split
      case isFalse => exact .kept hkept
      case isTrue hnamed =>
        -- A pair that is named but not moved stays in its state, and is stored in the start state if it had none.
        rw [stateAfter_of_not_moves hmoves, Store.effectiveState]
        cases hpeek : e.store.peek s n with
        | none => exact .begun hasks (mem_touched_iff.mp hnamed) hpeek
        | some v => exact hpeek ▸ .kept hkept

/-- **What becomes of a pair.** Every call does one of the five. -/
theorem becomes_step (e : Engine) (c : Call) (s : SessionId) (n : String) :
    e.Becomes c s n ((e.step c).store.peek s n) := by
  by_cases hput : ∃ v, e.Puts c s n v
  · obtain ⟨v, hputs⟩ := hput
    rw [peek_step_of_puts hputs]
    exact .put hputs
  by_cases hstored : (e.step c).store.sessions[s]? = none
  · rw [Store.peek_of_none hstored]
    exact .gone hstored
  · have hforced : c.operation.Forces s n → e.registry.knowsScenario n = false := by
      intro hforces
      rw [← Bool.not_eq_true]
      intro hknown
      exact hput (exists_puts_iff.mpr ⟨hforces, hknown⟩)
    rcases peek_step_of_not_forced hforced with hgone | hsame
    · exact absurd hgone hstored
    · rw [hsame]
      exact becomes_matched hput hstored

/-! ## A state that no mapping leads to -/

/-- The mapping that serves is registered. -/
theorem Serves.mem_mappings (h : e.Serves c s m) : m ∈ e.registry.mappings := by
  obtain ⟨r, i, -, hbest⟩ := h
  exact List.mem_of_getElem? hbest.registered

theorem peek_step_eq_some_iff (hstart : v ≠ startState) (hmoves : ∀ m ∈ e.registry.mappings, m.move? ≠ some (n, v)) :
    (e.step c).store.peek s n = some v ↔ e.Puts c s n v ∨ e.store.peek s n = some v ∧ ¬e.Ends c s n := by
  constructor
  · intro hpeek
    have hbecomes := becomes_step e c s n
    generalize (e.step c).store.peek s n = state at hpeek hbecomes
    cases hbecomes with
    | gone => cases hpeek
    | put hputs =>
      cases hpeek
      exact .inl hputs
    | moved hserves hmove =>
      cases hpeek
      exact absurd hmove (hmoves _ hserves.mem_mappings)
    | begun =>
      cases hpeek
      exact absurd rfl hstart
    | kept hkept => exact .inr ⟨hpeek, hkept⟩
  · rintro (hputs | ⟨hpeek, hkept⟩)
    · exact peek_step_of_puts hputs
    · have hbecomes := becomes_step e c s n
      generalize (e.step c).store.peek s n = state at hbecomes
      cases hbecomes with
      | gone hgone => exact absurd (.gone hgone) hkept
      | put hputs => exact absurd (.put hputs) hkept
      | moved hserves hmove => exact absurd (.moved hserves hmove) hkept
      | begun _ _ hnew => cases hnew.symm.trans hpeek
      | kept => exact hpeek

end Engine

end ScenarioStubs
