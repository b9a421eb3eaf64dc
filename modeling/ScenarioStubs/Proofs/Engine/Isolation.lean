import ScenarioStubs.Proofs.Engine.Recency

/-!
# Isolation of sessions

Two engines agree on a session if they have the same settings, the same mappings and the same entry for it
(`Engine.AgreeOn`). An operation that acts on the session, or on no session in particular, keeps them in agreement,
and gives the same answer if it acts on the session (`AgreeOn.perform_own`, `AgreeOn.perform_shared`). An operation that
acts on another session keeps the engine in agreement with itself (`agreeOn_perform_other`). By induction along the run,
what a session sees of a run does not depend on what other sessions do (`run_isolated`).
-/

namespace ScenarioStubs

namespace Operation

/-- Whether an operation acts on the given session alone. -/
def actsOn (c : EngineConfig) (a : SessionId) (op : Operation) : Bool := op.session? c == some a

/-- Whether an operation acts on no session other than the given one alone. -/
def spares (c : EngineConfig) (a : SessionId) (op : Operation) : Bool := (op.session? c).all (· == a)

end Operation

namespace Engine

/-- The engines differ in other sessions and in their counters only. -/
structure AgreeOn (a : SessionId) (e₁ e₂ : Engine) : Prop where
  config : e₁.config = e₂.config
  registry : e₁.registry = e₂.registry
  entry : e₁.store.sessions[a]? = e₂.store.sessions[a]?

variable {a : SessionId} {e e₁ e₂ e₃ : Engine}

namespace AgreeOn

theorem refl (a : SessionId) (e : Engine) : AgreeOn a e e := ⟨rfl, rfl, rfl⟩

theorem symm (h : AgreeOn a e₁ e₂) : AgreeOn a e₂ e₁ := ⟨h.config.symm, h.registry.symm, h.entry.symm⟩

theorem trans (h : AgreeOn a e₁ e₂) (h' : AgreeOn a e₂ e₃) : AgreeOn a e₁ e₃ :=
  ⟨h.config.trans h'.config, h.registry.trans h'.registry, h.entry.trans h'.entry⟩

/-! ## Matching -/

variable (h : AgreeOn a e₁ e₂) (now : Instant) (r : Request)
include h

theorem effectiveState (n : String) : e₁.store.effectiveState a n = e₂.store.effectiveState a n :=
  Store.effectiveState_congr a h.entry n

theorem touched : e₁.touched r = e₂.touched r := by
  unfold Engine.touched
  rw [h.registry]

theorem chosen? : e₁.chosen? a r = e₂.chosen? a r :=
  chosen?_congr (congrArg EngineConfig.selection h.config) h.registry fun n _ => h.effectiveState n

theorem move? : e₁.move? a r = e₂.move? a r := move?_congr (h.chosen? r)

theorem matchIn_fst : (e₁.matchIn now a r).1 = (e₂.matchIn now a r).1 := by
  rw [Engine.matchIn_fst, Engine.matchIn_fst, h.chosen?]

theorem sessions_touch (names : List String) :
    (e₁.store.touch now a names).sessions[a]? = (e₂.store.touch now a names).sessions[a]? := by
  rw [Store.sessions_touch, Store.sessions_touch, h.entry]

theorem sessions_setState (name state : String) :
    (e₁.store.setState now a name state).sessions[a]? = (e₂.store.setState now a name state).sessions[a]? := by
  unfold Store.setState
  rw [Store.sessions_write, Store.sessions_write, h.sessions_touch]

theorem sessions_storeAfter : (e₁.storeAfter now a r).sessions[a]? = (e₂.storeAfter now a r).sessions[a]? := by
  unfold storeAfter
  rw [h.move?, h.touched]
  split
  · exact h.sessions_touch now _
  · rw [Store.sessions_write, Store.sessions_write, h.sessions_touch]

theorem matchIn_snd : AgreeOn a (e₁.matchIn now a r).2 (e₂.matchIn now a r).2 := by
  rw [matchIn_eq, matchIn_eq]
  exact ⟨h.config, h.registry, h.sessions_storeAfter now r⟩

omit now r in
theorem sessions_markMinted (s : SessionId) :
    (e₁.store.markMinted s).sessions[a]? = (e₂.store.markMinted s).sessions[a]? := by
  rw [Store.sessions_markMinted, Store.sessions_markMinted]
  split
  case isTrue ha => rw [← ha.1, h.entry]
  case isFalse => exact h.entry

omit r in
/-- Recording a mint changes neither settings nor mappings. -/
theorem recordMinted_of_entry {s : SessionId}
    (hentry : (e₁.recordMinted now s).store.sessions[a]? = (e₂.recordMinted now s).store.sessions[a]?) :
    AgreeOn a (e₁.recordMinted now s) (e₂.recordMinted now s) := by
  obtain ⟨hconfig₁, hregistry₁⟩ := recordMinted_config_registry e₁ now s
  obtain ⟨hconfig₂, hregistry₂⟩ := recordMinted_config_registry e₂ now s
  refine ⟨?_, ?_, hentry⟩
  · rw [hconfig₁, hconfig₂, h.config]
  · rw [hregistry₁, hregistry₂, h.registry]

/-! ## Operations -/

/-- A request that presents the session is answered alike. -/
theorem serve {fresh : SessionId} (hid : (e₁.resolveSession fresh r).id = a)
    (hkept : (e₁.resolveSession fresh r).isEphemeral = false) :
    (e₁.serve now fresh r).1 = (e₂.serve now fresh r).1 ∧
      AgreeOn a (e₁.serve now fresh r).2 (e₂.serve now fresh r).2 := by
  have hsession : e₂.resolveSession fresh r = e₁.resolveSession fresh r := by
    unfold resolveSession resolver
    rw [h.config]
  have hmatch := h.matchIn_snd now r
  rw [serve_eq, serve_eq, hsession]
  simp only [hid, hkept, h.matchIn_fst now r, Bool.false_eq_true, if_false, true_and]
  refine ⟨hmatch.config, hmatch.registry, ?_⟩
  rw [Store.sessions_adopt, Store.sessions_adopt, hmatch.entry]

/-- The session can put the same scenarios into a state. -/
theorem setScenarioState (name state : String) :
    (e₁.perform now (.setScenarioState a name state)).1 = (e₂.perform now (.setScenarioState a name state)).1 ∧
      AgreeOn a (e₁.perform now (.setScenarioState a name state)).2
        (e₂.perform now (.setScenarioState a name state)).2 := by
  rw [perform_setScenarioState, perform_setScenarioState, h.registry]
  split
  · exact ⟨rfl, h.config, rfl, h.sessions_setState now name state⟩
  · exact ⟨rfl, h⟩

theorem scenarios : e₁.scenarios a = e₂.scenarios a := by
  unfold Engine.scenarios
  simp only [h.registry, h.effectiveState]

/-- An operation that acts on the session without minting it gives the same answer and keeps the agreement. -/
theorem perform_own {op : Operation} (hs : op.session? e₁.config = some a) (hm : op.minted? e₁.config ≠ some a) :
    (e₁.perform now op).1 = (e₂.perform now op).1 ∧ AgreeOn a (e₁.perform now op).2 (e₂.perform now op).2 := by
  cases op with
  | serve fresh r =>
    have hid : (e₁.resolveSession fresh r).id = a := Option.some.inj hs
    have hkept : (e₁.resolveSession fresh r).isEphemeral = false :=
      Bool.eq_false_iff.mpr fun hephemeral => hm ((if_pos hephemeral).trans hs)
    obtain ⟨hanswer, hagree⟩ := h.serve now r hid hkept
    exact ⟨congrArg Answer.served hanswer, hagree⟩
  | matchIn s r =>
    cases hs
    exact ⟨congrArg Answer.matched (h.matchIn_fst now r), h.matchIn_snd now r⟩
  | setScenarioState s name state =>
    cases hs
    exact h.setScenarioState now name state
  | resetScenario s name =>
    cases hs
    exact h.setScenarioState now name startState
  | resetSession s =>
    cases hs
    refine ⟨rfl, h.config, h.registry, ?_⟩
    show (e₁.store.resetSession a).sessions[a]? = (e₂.store.resetSession a).sessions[a]?
    rw [Store.sessions_resetSession, Store.sessions_resetSession, if_pos rfl, if_pos rfl]
  | scenarios s =>
    cases hs
    exact ⟨congrArg Answer.summaries h.scenarios, h⟩
  | register | registerDefinition | replaceStub | removeStub | clearStubs | resetScenarios | reset | evictExpired
    | evictIdle => cases hs

/-- An operation that acts on no session in particular keeps the agreement. -/
theorem perform_shared {op : Operation} (hs : op.session? e₁.config = none) :
    AgreeOn a (e₁.perform now op).2 (e₂.perform now op).2 := by
  cases op with
  | serve | matchIn | setScenarioState | resetScenario | resetSession | scenarios => cases hs
  | register m => exact ⟨h.config, congrArg (Registry.add · m) h.registry, h.entry⟩
  | registerDefinition fresh d =>
    rw [perform_registerDefinition, perform_registerDefinition]
    split
    · exact ⟨h.config, congrArg (Registry.add · _) h.registry, h.entry⟩
    · exact h
  | replaceStub id m =>
    rw [perform_replaceStub, perform_replaceStub, h.registry]
    split
    · exact ⟨h.config, rfl, h.entry⟩
    · exact h
  | removeStub id =>
    rw [perform_removeStub, perform_removeStub, h.registry]
    split
    · exact ⟨h.config, rfl, h.entry⟩
    · exact h
  | clearStubs => exact ⟨h.config, rfl, h.entry⟩
  | resetScenarios => exact ⟨h.config, h.registry, rfl⟩
  | reset => exact ⟨h.config, rfl, rfl⟩
  | evictExpired reading =>
    show AgreeOn a (e₁.evictExpired reading).2 (e₂.evictExpired reading).2
    refine ⟨?_, ?_, ?_⟩
    · rw [evictExpired_snd e₁, evictExpired_snd e₂]
      exact h.config
    · rw [evictExpired_snd e₁, evictExpired_snd e₂]
      exact h.registry
    · rw [sessions_evictExpired, sessions_evictExpired, h.entry, h.config]
  | evictIdle reading limit =>
    refine ⟨h.config, h.registry, ?_⟩
    show ((e₁.store.evictIdle reading limit).2.sessions[a]? = (e₂.store.evictIdle reading limit).2.sessions[a]?)
    unfold Store.evictIdle
    rw [Store.sessions_evictWhere, Store.sessions_evictWhere, h.entry]

end AgreeOn

/-! ## Operations on other sessions -/

variable {b : SessionId} {start now : Instant}

theorem agreeOn_matchIn_other (hab : a ≠ b) (r : Request) : AgreeOn a e (e.matchIn now b r).2 := by
  rw [matchIn_eq]
  exact ⟨rfl, rfl, (sessions_storeAfter_of_ne now a hab).symm⟩

/-- A sweep that comes with a request drops no session that was seen less than a second ago. -/
theorem agreeOn_serve_other (hc : e.config.sessions.Lasting) (hseen : e.store.SeenSince a start)
    (hnow : now.nanos < start.nanos + 1000000000) {fresh : SessionId} {r : Request}
    (hid : (e.resolveSession fresh r).id = b) (hab : a ≠ b) : AgreeOn a e (e.serve now fresh r).2 := by
  have hmatch : AgreeOn a e (e.matchIn now b r).2 := agreeOn_matchIn_other hab r
  rw [serve_eq]
  dsimp only
  rw [hid]
  refine hmatch.trans ?_
  split
  · obtain ⟨hconfig, hregistry⟩ := recordMinted_config_registry (e.matchIn now b r).2 now b
    refine ⟨hconfig.symm, hregistry.symm, ?_⟩
    have hspared := sessions_recordMinted_of_seenSince (hmatch.config ▸ hc) (hseen.congr hmatch.entry.symm) hnow b
    rw [hspared, Store.sessions_markMinted, if_neg fun h => hab h.1]
  · refine ⟨rfl, rfl, ?_⟩
    rw [Store.sessions_adopt, if_neg hab]

theorem agreeOn_setScenarioState_other (hab : a ≠ b) (name state : String) :
    AgreeOn a e (e.perform now (.setScenarioState b name state)).2 := by
  rw [perform_setScenarioState]
  split
  · refine ⟨rfl, rfl, ?_⟩
    show e.store.sessions[a]? = ((e.store.touch now b [name]).write b name state).sessions[a]?
    rw [Store.sessions_write, if_neg hab, Store.sessions_touch, if_neg fun h => hab h.1]
  · exact .refl a e

/-- An operation on another session that is not served there changes nothing that the session sees. -/
theorem agreeOn_perform_other_of_not_serve {op : Operation} (hserve : ∀ fresh r, op ≠ .serve fresh r)
    (hs : op.session? e.config = some b) (hab : a ≠ b) : AgreeOn a e (e.perform now op).2 := by
  cases op with
  | serve fresh r => exact absurd rfl (hserve fresh r)
  | matchIn s r =>
    cases hs
    exact agreeOn_matchIn_other hab r
  | setScenarioState s name state =>
    cases hs
    exact agreeOn_setScenarioState_other hab name state
  | resetScenario s name =>
    cases hs
    exact agreeOn_setScenarioState_other hab name startState
  | resetSession s =>
    cases hs
    refine ⟨rfl, rfl, ?_⟩
    show e.store.sessions[a]? = (e.store.resetSession b).sessions[a]?
    rw [Store.sessions_resetSession, if_neg hab]
  | scenarios s => exact .refl a e
  | register | registerDefinition | replaceStub | removeStub | clearStubs | resetScenarios | reset | evictExpired
    | evictIdle => cases hs

/-- An operation that acts on another session changes nothing that the session sees. -/
theorem agreeOn_perform_other {op : Operation} (hc : e.config.sessions.Lasting) (hseen : e.store.SeenSince a start)
    (hnow : now.nanos < start.nanos + 1000000000) (hs : op.session? e.config = some b) (hab : a ≠ b) :
    AgreeOn a e (e.perform now op).2 := by
  obtain ⟨fresh, r, rfl⟩ | ⟨hserve, -, -⟩ := op.serve_or e.config
  · exact agreeOn_serve_other hc hseen hnow (Option.some.inj hs) hab
  · exact agreeOn_perform_other_of_not_serve hserve hs hab

/-! ## Runs -/

/-- What a session is told in a run: the operations that act on it, and their answers. -/
def answersOn (e : Engine) (a : SessionId) (calls : List Call) : List (Call × Answer) :=
  (e.answers calls).filter (·.1.operation.actsOn e.config a)

/-- A run without the operations that act on sessions other than the given one. -/
def sparing (c : EngineConfig) (a : SessionId) (calls : List Call) : List Call :=
  calls.filter (·.operation.spares c a)

theorem answersOn_cons (e : Engine) (a : SessionId) (c : Call) (rest : List Call) :
    e.answersOn a (c :: rest) =
      if c.operation.actsOn e.config a then (c, e.answer c) :: (e.step c).answersOn a rest
      else (e.step c).answersOn a rest := by
  unfold answersOn
  rw [answers, List.filter_cons, step_config]

/-- Two engines that agree on a session have told it the same, and still agree, after a run and after the same run
without the operations that act on other sessions. -/
theorem AgreeOn.run {config : EngineConfig} (hc : config.sessions.Lasting) {calls : List Call}
    (h : AgreeOn a e₁ e₂) (hconfig : e₁.config = config) (hseen : e₁.store.SeenSince a start)
    (hclock : ∀ c ∈ calls, start.nanos ≤ c.now.nanos ∧ c.now.nanos < start.nanos + 1000000000)
    (hminted : ∀ c ∈ calls, c.operation.minted? config ≠ some a) :
    e₁.answersOn a calls = e₂.answersOn a (sparing config a calls) ∧
      AgreeOn a (e₁.after calls) (e₂.after (sparing config a calls)) := by
  induction calls generalizing e₁ e₂ with
  | nil => exact ⟨rfl, h⟩
  | cons c rest ih =>
    obtain ⟨hstart, hnow⟩ := hclock c List.mem_cons_self
    have hm := hminted c List.mem_cons_self
    -- Whatever the operation is, the rest of the run starts from engines that agree.
    have hrest : ∀ {e₂'}, AgreeOn a (e₁.step c) e₂' →
        (e₁.step c).answersOn a rest = e₂'.answersOn a (sparing config a rest) ∧
          AgreeOn a ((e₁.step c).after rest) (e₂'.after (sparing config a rest)) := fun h' =>
      ih h' ((step_config e₁ c).trans hconfig) (seenSince_step hseen hstart)
        (fun c' hc' => hclock c' (List.mem_cons_of_mem c hc')) fun c' hc' => hminted c' (List.mem_cons_of_mem c hc')
    have hconfig₂ : e₂.config = config := h.config.symm.trans hconfig
    have hfilter : sparing config a (c :: rest) =
        if c.operation.spares config a then c :: sparing config a rest else sparing config a rest := List.filter_cons
    rw [hfilter, answersOn_cons, hconfig]
    cases hs : c.operation.session? config with
    | none =>
      have hacts : c.operation.actsOn config a = false := by simp [Operation.actsOn, hs]
      have hspares : c.operation.spares config a = true := by simp [Operation.spares, hs]
      rw [if_pos hspares, answersOn_cons, hconfig₂, hacts]
      exact hrest (h.perform_shared c.now (hconfig ▸ hs))
    | some b =>
      by_cases hab : a = b
      · subst hab
        have hacts : c.operation.actsOn config a = true := by simp [Operation.actsOn, hs]
        have hspares : c.operation.spares config a = true := by simp [Operation.spares, hs]
        obtain ⟨hanswer, hagree⟩ := h.perform_own c.now (hconfig ▸ hs) (hconfig ▸ hm)
        obtain ⟨hanswers, hafter⟩ := hrest hagree
        rw [if_pos hspares, answersOn_cons, hconfig₂, hacts, if_pos rfl, if_pos rfl, hanswers]
        exact ⟨by rw [answer, hanswer]; rfl, hafter⟩
      · have hacts : c.operation.actsOn config a = false := by simp [Operation.actsOn, hs, Ne.symm hab]
        have hspares : c.operation.spares config a = false := by simp [Operation.spares, hs, Ne.symm hab]
        have hother := agreeOn_perform_other (hconfig ▸ hc) hseen hnow (hconfig ▸ hs) hab
        rw [hspares, hacts]
        exact hrest (hother.symm.trans h)

/-- **Isolation of sessions.** Take a run that lasts less than a second, of an engine without a lifetime of zero that
holds no entry of `a` from before the run, and let `a` never be minted in it. What `a` is told in the run and its entry
at the end are the same as in the run without the operations that act on other sessions. -/
theorem run_isolated (e : Engine) (a : SessionId) (start : Instant) (calls : List Call)
    (hlasting : e.config.sessions.Lasting) (hseen : e.store.SeenSince a start)
    (hclock : ∀ c ∈ calls, start.nanos ≤ c.now.nanos ∧ c.now.nanos < start.nanos + 1000000000)
    (hminted : ∀ c ∈ calls, c.operation.minted? e.config ≠ some a) :
    e.answersOn a calls = e.answersOn a (sparing e.config a calls) ∧
      (e.after calls).store.sessions[a]? = (e.after (sparing e.config a calls)).store.sessions[a]? := by
  obtain ⟨hanswers, hafter⟩ := AgreeOn.run hlasting (.refl a e) rfl hseen hclock hminted
  exact ⟨hanswers, hafter.entry⟩

/-- While `a` meets a stub for the first time, `b` is put into another state, a session is minted and swept, and a
mapping goes; `a` cannot tell. -/
theorem run_isolated_from_b_and_minted :
    let a : SessionId := ⟨"a", by decide⟩
    let b : SessionId := ⟨"b", by decide⟩
    let first : StubMapping := ⟨⟨1⟩, 5, .always, some ⟨"S", some "Started", some "Seen"⟩, .ofStatus 201⟩
    let r := Request.new "GET" "/"
    let e := (Engine.new {}).register first
    let calls : List Call := [⟨⟨0⟩, .setScenarioState b "S" "Seen"⟩, ⟨⟨1⟩, .serve ⟨"m", by decide⟩ r⟩,
      ⟨⟨2⟩, .matchIn a r⟩, ⟨⟨3⟩, .evictExpired ⟨301000000000⟩⟩, ⟨⟨4⟩, .resetSession b⟩, ⟨⟨5⟩, .scenarios a⟩,
      ⟨⟨6⟩, .removeStub ⟨1⟩⟩]
    (sparing e.config a calls).length = 4 ∧ e.answersOn a calls = e.answersOn a (sparing e.config a calls) ∧
      (e.after calls).store.sessions[a]? = (e.after (sparing e.config a calls)).store.sessions[a]? :=
  ⟨by decide, run_isolated _ _ ⟨0⟩ _ ⟨by decide, fun _ h => by cases h⟩
    (Store.seenSince_of_none (Store.sessions_empty _)) (by decide) (by decide)⟩

end Engine

end ScenarioStubs
