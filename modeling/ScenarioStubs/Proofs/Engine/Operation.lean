import ScenarioStubs.Proofs.Engine.Expiry
import ScenarioStubs.Proofs.Engine.Matching

/-!
# Runs of an engine

Everything that clients and administrators do to an engine is an `Operation`; performing it gives an `Answer` and the
next engine (`Engine.perform`). A run is a list of operations, each with the reading of the clock when it is performed
(`Call`); it ends in an engine (`Engine.after`) and gives each of its operations an answer (`Engine.answers`). The
settings stay the same throughout (`after_config`). The points of a run are the engines before each of its calls; what
every call preserves is preserved from each point to every later one (`Throughout.preserves`).
-/

namespace ScenarioStubs

/-- What can be done to an engine. -/
inductive Operation
  /-- Answer a request; the session `fresh` is minted if it presents none. -/
  | serve (fresh : SessionId) (r : Request)
  /-- Answer a request in a given session. -/
  | matchIn (s : SessionId) (r : Request)
  | setScenarioState (s : SessionId) (name state : String)
  | resetScenario (s : SessionId) (name : String)
  | resetSession (s : SessionId)
  | scenarios (s : SessionId)
  | register (m : StubMapping)
  | registerDefinition (fresh : StubId) (d : MappingDefinition)
  | replaceStub (id : StubId) (m : StubMapping)
  | removeStub (id : StubId)
  | clearStubs
  | resetScenarios
  | reset
  /-- Drop the sessions that have expired at a given reading of the clock. -/
  | evictExpired (reading : Instant)
  /-- Drop the sessions that have been idle for longer than a span at a given reading of the clock. -/
  | evictIdle (reading : Instant) (limit : Duration)

/-- What an operation gives back. -/
inductive Answer
  | served (event : ServeEvent)
  | matched (stub : Option ServedStub)
  | summaries (scenarios : List ScenarioSummary)
  | registered (id : StubId)
  | removed (m : StubMapping)
  | evicted (n : Nat)
  | done
  | refused (cause : AdminError)

/-- An operation and the reading of the clock when it is performed. -/
structure Call where
  now : Instant
  operation : Operation

namespace Operation

/-- The session that an operation acts on, if it acts on one alone. -/
def session? (c : EngineConfig) : Operation → Option SessionId
  | .serve fresh r => some (c.sessions.resolver.resolve fresh r.headers r.cookies).id
  | .matchIn s _ | .setScenarioState s _ _ | .resetScenario s _ | .resetSession s | .scenarios s => some s
  | _ => none

/-- The session that an operation mints, if it mints one. -/
def minted? (c : EngineConfig) : Operation → Option SessionId
  | .serve fresh r =>
    let session := c.sessions.resolver.resolve fresh r.headers r.cookies
    if session.isEphemeral then some session.id else none
  | _ => none

/-- Whether the operation is about the mappings alone. -/
def editsMappings : Operation → Bool
  | .register _ | .registerDefinition .. | .replaceStub .. | .removeStub _ | .clearStubs => true
  | _ => false

end Operation

namespace Engine

/-- The answer to an attempt, and the engine after it; a refused attempt leaves the engine as it is. -/
def attempt (e : Engine) : Except AdminError (Answer × Engine) → Answer × Engine
  | .ok result => result
  | .error cause => (.refused cause, e)

/-- The answer to an operation, and the engine after it. -/
def perform (e : Engine) (now : Instant) : Operation → Answer × Engine
  | .serve fresh r => (e.serve now fresh r).map .served id
  | .matchIn s r => (e.matchIn now s r).map .matched id
  | .setScenarioState s name state => e.attempt ((e.setScenarioState now s name state).map fun e => (.done, e))
  | .resetScenario s name => e.attempt ((e.resetScenario now s name).map fun e => (.done, e))
  | .resetSession s => (.done, e.resetSession s)
  | .scenarios s => (.summaries (e.scenarios s), e)
  | .register m => (.registered m.id, e.register m)
  | .registerDefinition fresh d => e.attempt ((e.registerDefinition fresh d).map fun (id, e) => (.registered id, e))
  | .replaceStub id m => e.attempt ((e.replaceStub id m).map fun e => (.done, e))
  | .removeStub id => e.attempt ((e.removeStub id).map fun (m, e) => (.removed m, e))
  | .clearStubs => (.done, e.clearStubs)
  | .resetScenarios => (.done, e.resetScenarios)
  | .reset => (.done, e.reset)
  | .evictExpired reading => (e.evictExpired reading).map .evicted id
  | .evictIdle reading limit => (e.evictIdle reading limit).map .evicted id

/-- The answer to a call. -/
def answer (e : Engine) (c : Call) : Answer := (e.perform c.now c.operation).1

/-- The engine after a call. -/
def step (e : Engine) (c : Call) : Engine := (e.perform c.now c.operation).2

/-- The engine after a run. -/
def after (e : Engine) (calls : List Call) : Engine := calls.foldl step e

/-- The calls of a run with their answers. -/
def answers : Engine → List Call → List (Call × Answer)
  | _, [] => []
  | e, c :: rest => (c, e.answer c) :: (e.step c).answers rest

/-- A condition on an engine and the call that it is about to perform holds at every call of a run. -/
def Throughout (p : Engine → Call → Prop) (e : Engine) (calls : List Call) : Prop :=
  ∀ i c, calls[i]? = some c → p (e.after (calls.take i)) c

/-- A condition on an engine and the call that it is about to perform holds at the call at a given place of a run. -/
def At (p : Engine → Call → Prop) (e : Engine) (calls : List Call) (i : Nat) : Prop :=
  ∃ c, calls[i]? = some c ∧ p (e.after (calls.take i)) c

variable (e : Engine) (now : Instant)

/-! ## The operations one by one -/

theorem serve_eq (fresh : SessionId) (r : Request) : e.serve now fresh r =
    let session := e.resolveSession fresh r
    let e' := (e.matchIn now session.id r).2
    (⟨session, (e.matchIn now session.id r).1⟩,
      if session.isEphemeral then e'.recordMinted now session.id
      else { e' with store := e'.store.adopt session.id }) := rfl

theorem perform_setScenarioState (s : SessionId) (name state : String) :
    e.perform now (.setScenarioState s name state) =
      if e.registry.knowsScenario name then (.done, { e with store := e.store.setState now s name state })
      else (.refused (.unknownScenario name), e) := by
  show e.attempt ((e.setScenarioState now s name state).map fun e => (.done, e)) = _
  unfold setScenarioState
  split <;> rfl

theorem perform_resetScenario (s : SessionId) (name : String) :
    e.perform now (.resetScenario s name) = e.perform now (.setScenarioState s name startState) := rfl

theorem perform_registerDefinition (fresh : StubId) (d : MappingDefinition) :
    e.perform now (.registerDefinition fresh d) =
      match d.build fresh with
      | .ok m => (.registered m.id, e.register m)
      | .error cause => (.refused (.invalidMapping cause), e) := by
  show e.attempt ((e.registerDefinition fresh d).map fun (id, e) => (.registered id, e)) = _
  unfold registerDefinition
  cases d.build fresh <;> rfl

theorem perform_replaceStub (id : StubId) (m : StubMapping) : e.perform now (.replaceStub id m) =
    match e.registry.replace id m with
    | .ok registry => (.done, { e with registry })
    | .error cause => (.refused (.invalidMapping cause), e) := by
  show e.attempt ((e.replaceStub id m).map fun e => (.done, e)) = _
  unfold replaceStub
  cases e.registry.replace id m <;> rfl

theorem perform_removeStub (id : StubId) : e.perform now (.removeStub id) =
    match e.registry.get? id with
    | some m => (.removed m, { e with registry := (e.registry.remove id).2 })
    | none => (.refused (.invalidMapping (.notFound id)), e) := by
  show e.attempt ((e.removeStub id).map fun (m, e) => (.removed m, e)) = _
  unfold removeStub Registry.remove
  cases e.registry.get? id <;> rfl

/-- Whether it is carried out or refused, an operation about the mappings leaves the store as it is. -/
theorem store_perform_of_editsMappings {op : Operation} (h : op.editsMappings = true) :
    (e.perform now op).2.store = e.store := by
  cases op with
  | registerDefinition fresh d =>
    rw [perform_registerDefinition]
    split <;> rfl
  | replaceStub id m =>
    rw [perform_replaceStub]
    split <;> rfl
  | removeStub id =>
    rw [perform_removeStub]
    split <;> rfl
  | register | clearStubs => rfl
  | serve | matchIn | setScenarioState | resetScenario | resetSession | scenarios | resetScenarios | reset
    | evictExpired | evictIdle => cases h

theorem serve_config_registry (fresh : SessionId) (r : Request) :
    (e.serve now fresh r).2.config = e.config ∧ (e.serve now fresh r).2.registry = e.registry := by
  rw [serve_eq]
  dsimp only
  split
  · obtain ⟨hc, hr⟩ := recordMinted_config_registry (e.matchIn now (e.resolveSession fresh r).id r).2 now
      (e.resolveSession fresh r).id
    rw [hc, hr, matchIn_eq]
    exact ⟨rfl, rfl⟩
  · rw [matchIn_eq]
    exact ⟨rfl, rfl⟩

/-- No operation changes a setting. -/
theorem perform_config (op : Operation) : (e.perform now op).2.config = e.config := by
  cases op with
  | serve fresh r => exact (serve_config_registry e now fresh r).1
  | matchIn s r => exact congrArg (·.2.config) (matchIn_eq e now s r)
  | setScenarioState s name state =>
    rw [perform_setScenarioState]
    split <;> rfl
  | resetScenario s name =>
    rw [perform_resetScenario, perform_setScenarioState]
    split <;> rfl
  | registerDefinition fresh d =>
    rw [perform_registerDefinition]
    split <;> rfl
  | replaceStub id m =>
    rw [perform_replaceStub]
    split <;> rfl
  | removeStub id =>
    rw [perform_removeStub]
    split <;> rfl
  | evictExpired reading => exact congrArg (·.config) (evictExpired_snd e reading)
  | resetSession | scenarios | register | clearStubs | resetScenarios | reset | evictIdle => rfl

@[simp] theorem step_config (c : Call) : (e.step c).config = e.config := perform_config e c.now c.operation

/-! ## Runs -/

/-- What every call preserves holds after every run. -/
theorem after_preserves {e : Engine} (inv : Engine → Prop) (hstep : ∀ e c, inv e → inv (e.step c)) (he : inv e)
    (calls : List Call) : inv (e.after calls) := by
  induction calls generalizing e with
  | nil => exact he
  | cons c rest ih => exact ih (hstep e c he)

/-- No run changes a setting. -/
theorem after_config (calls : List Call) : (e.after calls).config = e.config :=
  after_preserves (·.config = e.config) (fun e' c h => (step_config e' c).trans h) rfl calls

theorem after_concat (calls : List Call) (c : Call) : e.after (calls ++ [c]) = (e.after calls).step c := by
  unfold after
  rw [List.foldl_append]
  rfl

theorem after_take_succ {calls : List Call} {i : Nat} {c : Call} (h : calls[i]? = some c) :
    e.after (calls.take (i + 1)) = (e.after (calls.take i)).step c := by
  unfold after
  rw [List.take_add_one, h, Option.toList_some, List.foldl_append]
  rfl

/-- A relation that every call of a run preserves when it is performed on both of two engines holds after the run, and
calls that are answered alike by related engines are answered alike throughout. -/
theorem answers_of_related {e₁ e₂ : Engine} {calls : List Call} (r : Engine → Engine → Prop) (q : Call → Bool)
    (hstep : ∀ c ∈ calls, ∀ e₁ e₂, r e₁ e₂ → r (e₁.step c) (e₂.step c))
    (hanswer : ∀ c ∈ calls, q c = true → ∀ e₁ e₂, r e₁ e₂ → e₁.answer c = e₂.answer c) (h : r e₁ e₂) :
    (e₁.answers calls).filter (q ·.1) = (e₂.answers calls).filter (q ·.1) ∧ r (e₁.after calls) (e₂.after calls) := by
  induction calls generalizing e₁ e₂ with
  | nil => exact ⟨rfl, h⟩
  | cons c rest ih =>
    obtain ⟨hanswers, hafter⟩ := ih (fun c' hc' => hstep c' (List.mem_cons_of_mem c hc'))
      (fun c' hc' => hanswer c' (List.mem_cons_of_mem c hc')) (hstep c List.mem_cons_self e₁ e₂ h)
    refine ⟨?_, hafter⟩
    rw [answers, answers, List.filter_cons, List.filter_cons, hanswers]
    cases hq : q c with
    | false => rfl
    | true =>
      rw [if_pos rfl, if_pos rfl, hanswer c List.mem_cons_self hq e₁ e₂ h]

/-- A condition that can be evaluated at one call can be evaluated along a run. -/
instance Throughout.decidable {p : Engine → Call → Prop} [∀ e c, Decidable (p e c)] (calls : List Call) :
    Decidable (e.Throughout p calls) :=
  decidable_of_iff (∀ i, (h : i < calls.length) → p (e.after (calls.take i)) calls[i])
    ⟨fun h i _ hc => (List.getElem?_eq_some_iff.mp hc).elim fun hi heq => heq ▸ h i hi,
      fun h i hi => h i calls[i] (List.getElem?_eq_getElem hi)⟩

/-- What every call of a run preserves is preserved from each point of the run to every later one. -/
theorem Throughout.preserves {e : Engine} {p : Engine → Call → Prop} {calls : List Call} {i j : Nat}
    (h : e.Throughout p calls) (inv : Engine → Prop) (hstep : ∀ e c, p e c → inv e → inv (e.step c)) (hij : i ≤ j)
    (hi : inv (e.after (calls.take i))) : inv (e.after (calls.take j)) := by
  induction hij with
  | refl => exact hi
  | @step j _ ih =>
    cases hc : calls[j]? with
    | none =>
      rw [List.take_add_one, hc, Option.toList_none, List.append_nil]
      exact ih
    | some c =>
      rw [after_take_succ e hc]
      exact hstep _ c (h j c hc) ih

end Engine

end ScenarioStubs
