import ScenarioStubs.Proofs.Engine.Asking
import ScenarioStubs.Proofs.Engine.Isolation
import ScenarioStubs.Proofs.Engine.Mappings
import ScenarioStubs.Proofs.Engine.MintedMarks

/-!
# Forgetting

What an engine still tells of a session that was removed is what it would tell if the session had never been seen: no
entry, as in an engine that never acted on the session (`sessions_after_of_untouched`), and the same mappings
(`registry_after_unseen`). Engines that agree on a session go on agreeing when they are asked the same within a second
(`AlikeSince.step`), also when they sweep at different times because they have counted different mints, and they answer
alike what is asked about the session (`AgreeOn.answer_own`). After a reset the engine agrees with a new one on every
session, so it answers everything alike (`answer_congr`).

Together: `forgetting_complete`.
-/

namespace ScenarioStubs
namespace Engine

/-- The engines agree on a session, and if it is stored, it was last seen at the given reading of the clock or later. -/
structure AlikeSince (start : Instant) (a : SessionId) (e₁ e₂ : Engine) : Prop extends AgreeOn a e₁ e₂ where
  seen : e₁.store.SeenSince a start

/-- A run without the operations that act on a session alone. -/
def unseen (config : EngineConfig) (s : SessionId) (calls : List Call) : List Call :=
  calls.filter fun c => !c.operation.actsOn config s

variable {config : EngineConfig} {a s : SessionId} {e e₁ e₂ : Engine} {start : Instant} {c : Call} {calls : List Call}

/-! ## Answers -/

/-- What is asked about a session is answered alike by engines that agree on it, also if it is minted for that. -/
theorem AgreeOn.answer_own (h : AgreeOn a e₁ e₂) (hs : c.operation.session? e₁.config = some a) :
    e₁.answer c = e₂.answer c := by
  by_cases hminted : c.operation.minted? e₁.config = some a
  · obtain ⟨fresh, r, hop⟩ | ⟨-, hnone, -⟩ := c.operation.serve_or e₁.config
    · rw [hop] at hs
      have hasks : c.operation.Asks e₁.config a r := hop ▸ .of_id (Option.some.inj hs)
      exact perform_fst_congr hasks h.config (h.matchIn_fst c.now r)
    · cases hnone.symm.trans hminted
  · exact (h.perform_own c.now hs hminted).1

/-- An answer depends on anything but the counters. -/
theorem answer_congr (hconfig : e₁.config = e₂.config) (hregistry : e₁.registry = e₂.registry)
    (hstore : e₁.store = e₂.store) (c : Call) : e₁.answer c = e₂.answer c := by
  have hagree : ∀ a, AgreeOn a e₁ e₂ := fun a => ⟨hconfig, hregistry, by rw [hstore]⟩
  cases hs : c.operation.session? e₁.config with
  | some a => exact (hagree a).answer_own hs
  | none =>
    obtain ⟨config, registry, store, stats₁⟩ := e₁
    obtain ⟨_, _, _, stats₂⟩ := e₂
    cases hconfig
    cases hregistry
    cases hstore
    obtain ⟨now, op⟩ := c
    show (perform _ now op).1 = (perform _ now op).1
    cases op with
    | serve | matchIn | setScenarioState | resetScenario | resetSession | scenarios => cases hs
    | register | clearStubs | resetScenarios | reset | evictIdle => rfl
    | registerDefinition fresh d =>
      rw [perform_registerDefinition, perform_registerDefinition]
      cases d.build fresh <;> rfl
    | replaceStub id m =>
      rw [perform_replaceStub, perform_replaceStub]
      dsimp only
      cases registry.replace id m <;> rfl
    | removeStub id =>
      rw [perform_removeStub, perform_removeStub]
      dsimp only
      cases registry.get? id <;> rfl
    | evictExpired reading =>
      refine congrArg Answer.evicted ?_
      show (evictExpired _ reading).1 = (evictExpired _ reading).1
      unfold evictExpired
      dsimp only
      cases config.sessions.idleLimit <;> rfl

/-! ## The same calls on both engines -/

namespace AlikeSince

variable (hc : e₁.config.sessions.Lasting) (h : AlikeSince start a e₁ e₂)
include hc h

/-- Less than a second after `start`, engines that agree on a session do so after a mint, whether they sweep or not. -/
theorem recordMinted {now : Instant} (hnow : now.nanos < start.nanos + 1000000000) (s : SessionId) :
    AgreeOn a (e₁.recordMinted now s) (e₂.recordMinted now s) := by
  have hseen₂ : e₂.store.SeenSince a start := h.seen.congr h.entry.symm
  apply h.recordMinted_of_entry
  rw [sessions_recordMinted_of_seenSince hc h.seen hnow,
    sessions_recordMinted_of_seenSince (h.config ▸ hc) hseen₂ hnow, h.sessions_markMinted]

variable (hclock : start.nanos ≤ c.now.nanos ∧ c.now.nanos < start.nanos + 1000000000)
include hclock

/-- A call that mints the session keeps the agreement. -/
theorem step_of_minted (hminted : c.operation.minted? e₁.config = some a) : AgreeOn a (e₁.step c) (e₂.step c) := by
  obtain ⟨hstart, hnow⟩ := hclock
  obtain ⟨now, op⟩ := c
  obtain ⟨fresh, r, rfl⟩ | ⟨-, hnone, -⟩ := op.serve_or e₁.config
  · have hminted₂ : (Operation.serve fresh r).minted? e₂.config = some a := h.config ▸ hminted
    show AgreeOn a (e₁.serve now fresh r).2 (e₂.serve now fresh r).2
    rw [serve_of_minted hminted, serve_of_minted hminted₂]
    have hmatched : AlikeSince start a (e₁.matchIn now a r).2 (e₂.matchIn now a r).2 :=
      ⟨h.matchIn_snd now r, seenSince_perform h.seen hstart (.matchIn a r)⟩
    have hc' : (e₁.matchIn now a r).2.config.sessions.Lasting := by rwa [matchIn_eq]
    exact hmatched.recordMinted hc' hnow a
  · cases hnone.symm.trans hminted

/-- A call that acts on another session keeps the agreement. -/
theorem step_other {b : SessionId} (hs : c.operation.session? e₁.config = some b) (hab : a ≠ b) :
    AgreeOn a (e₁.step c) (e₂.step c) := by
  have hs₂ : c.operation.session? e₂.config = some b := h.config ▸ hs
  have hseen₂ : e₂.store.SeenSince a start := h.seen.congr h.entry.symm
  have hother₁ : AgreeOn a e₁ (e₁.step c) := agreeOn_perform_other hc h.seen hclock.2 hs hab
  have hother₂ : AgreeOn a e₂ (e₂.step c) := agreeOn_perform_other (h.config ▸ hc) hseen₂ hclock.2 hs₂ hab
  exact hother₁.symm.trans (h.toAgreeOn.trans hother₂)

/-- Every call that is performed on both engines keeps the agreement. -/
theorem step : AlikeSince start a (e₁.step c) (e₂.step c) := by
  refine ⟨?_, seenSince_step h.seen hclock.1⟩
  cases hs : c.operation.session? e₁.config with
  | none => exact h.perform_shared c.now hs
  | some b =>
    by_cases hab : a = b
    · subst hab
      by_cases hminted : c.operation.minted? e₁.config = some a
      · exact h.step_of_minted hc hclock hminted
      · exact (h.perform_own c.now hs hminted).2
    · exact h.step_other hc hclock hs hab

end AlikeSince

/-! ## Sessions that are not acted on -/

/-- A call that does not act on a session does not store it. -/
theorem sessions_step_of_none (h : e.store.sessions[s]? = none) (hs : c.operation.session? e.config ≠ some s) :
    (e.step c).store.sessions[s]? = none := by
  obtain ⟨now, op⟩ := c
  show (e.perform now op).2.store.sessions[s]? = none
  cases hb : op.session? e.config with
  | some b =>
    have hsb : s ≠ b := fun heq => hs (heq ▸ hb)
    obtain ⟨fresh, r, rfl⟩ | ⟨hserve, -, -⟩ := op.serve_or e.config
    · have hid : (e.resolveSession fresh r).id = b := Option.some.inj hb
      have hmatch : (e.matchIn now b r).2.store.sessions[s]? = none :=
        (agreeOn_matchIn_other hsb r).entry.symm.trans h
      show (e.serve now fresh r).2.store.sessions[s]? = none
      rw [serve_eq]
      dsimp only
      rw [hid]
      split
      · rw [sessions_recordMinted, Store.sessions_markMinted, if_neg fun h => hsb h.1, hmatch, Option.filter_none]
      · rw [Store.sessions_adopt, if_neg hsb, hmatch]
    · exact (agreeOn_perform_other_of_not_serve hserve hb hsb).entry.symm.trans h
  | none =>
    cases op with
    | serve | matchIn | setScenarioState | resetScenario | resetSession | scenarios => cases hb
    | register | registerDefinition | replaceStub | removeStub | clearStubs =>
      rw [store_perform_of_editsMappings]
      · exact h
      · rfl
    | resetScenarios | reset => exact Store.sessions_resetAll e.store s
    | evictExpired reading => exact (sessions_evictExpired e reading s).trans (by rw [h, Option.filter_none])
    | evictIdle reading limit => exact (Store.sessions_evictWhere e.store s _).trans (by rw [h, Option.filter_none])

theorem sessions_after_of_untouched (h : ∀ c ∈ calls, c.operation.session? e.config ≠ some s)
    (hnone : e.store.sessions[s]? = none) : (e.after calls).store.sessions[s]? = none := by
  induction calls generalizing e with
  | nil => exact hnone
  | cons c rest ih =>
    apply ih
    · intro c' hc'
      rw [step_config]
      exact h c' (List.mem_cons_of_mem c hc')
    · exact sessions_step_of_none hnone (h c List.mem_cons_self)

theorem sessions_step_of_forgotten (h : c.operation = .resetSession s ∨ e.Removes s c) :
    (e.step c).store.sessions[s]? = none := by
  rcases h with hreset | ⟨-, hgone⟩
  · unfold step
    rw [hreset]
    exact (Store.sessions_resetSession e.store s s).trans (if_pos rfl)
  · exact hgone

theorem session?_of_mem_unseen (h : c ∈ unseen config s calls) : c.operation.session? config ≠ some s := by
  intro hs
  have hspared := (List.mem_filter.mp h).2
  unfold Operation.actsOn at hspared
  rw [hs] at hspared
  simp at hspared

/-- A run that leaves out what acts on one session alone leads to the same mappings. -/
theorem registry_after_unseen (h : e₁.registry = e₂.registry) (config : EngineConfig) (s : SessionId)
    (calls : List Call) : (e₁.after (unseen config s calls)).registry = (e₂.after calls).registry := by
  -- The right engine makes each call, the left one those that are kept; the others leave the mappings as they are.
  induction calls generalizing e₁ e₂ with
  | nil => exact h
  | cons c rest ih =>
    have hfilter : unseen config s (c :: rest) =
        if c.operation.actsOn config s then unseen config s rest else c :: unseen config s rest := by
      unfold unseen
      rw [List.filter_cons]
      cases c.operation.actsOn config s <;> rfl
    have hrest : e₂.after (c :: rest) = (e₂.step c).after rest := rfl
    rw [hfilter, hrest]
    split
    case isTrue hacts =>
      apply ih
      rw [step_registry, Registry.edit_of_session? (eq_of_beq hacts), h]
    case isFalse =>
      have hrest₁ : e₁.after (c :: unseen config s rest) = (e₁.step c).after (unseen config s rest) := rfl
      rw [hrest₁]
      apply ih
      rw [step_registry, step_registry, h]

/-! ## Runs -/

/-- Engines that agree on a session which neither holds tell it the same from then on. -/
theorem AgreeOn.answersOn (hc : e₁.config.sessions.Lasting) (h : AgreeOn s e₁ e₂)
    (hnone : e₁.store.sessions[s]? = none)
    (hclock : ∀ c ∈ calls, start.nanos ≤ c.now.nanos ∧ c.now.nanos < start.nanos + 1000000000) :
    e₁.answersOn s calls = e₂.answersOn s calls ∧
      (e₁.after calls).store.sessions[s]? = (e₂.after calls).store.sessions[s]? := by
  have hstart : e₁.config = e₁.config ∧ AlikeSince start s e₁ e₂ := ⟨rfl, h, Store.seenSince_of_none hnone⟩
  obtain ⟨hanswers, -, hafter⟩ := answers_of_related
    (fun e e' => e.config = e₁.config ∧ AlikeSince start s e e') (·.operation.actsOn e₁.config s)
    (fun c hc' e e' ⟨hconfig, halike⟩ =>
      ⟨(step_config e c).trans hconfig, halike.step (hconfig ▸ hc) (hclock c hc')⟩)
    (fun c _ hacts e e' ⟨hconfig, halike⟩ => halike.answer_own (hconfig ▸ eq_of_beq hacts)) hstart
  refine ⟨?_, hafter.entry⟩
  unfold Engine.answersOn
  rw [← h.config]
  exact hanswers

/-- An engine without mappings and sessions answers everything as a new one does. -/
theorem answers_of_empty (hc : config.sessions.Lasting) (hconfig : e.config = config) (hregistry : e.registry = .empty)
    (hstore : e.store = .empty)
    (hclock : ∀ c ∈ calls, start.nanos ≤ c.now.nanos ∧ c.now.nanos < start.nanos + 1000000000) :
    e.answers calls = (new config).answers calls ∧ (e.after calls).registry = ((new config).after calls).registry ∧
      (e.after calls).store = ((new config).after calls).store := by
  have hsame : ∀ {e₁ e₂ : Engine}, (∀ a, AlikeSince start a e₁ e₂) → e₁.store = e₂.store := fun h =>
    Store.eq_of_sessions_eq fun a => (h a).entry
  have hstart : e.config = config ∧ ∀ a, AlikeSince start a e (new config) := by
    refine ⟨hconfig, fun a => ⟨⟨hconfig, hregistry, by rw [hstore]; rfl⟩, Store.seenSince_of_none ?_⟩⟩
    rw [hstore]
    exact Store.sessions_empty a
  obtain ⟨hanswers, -, hafter⟩ := answers_of_related
    (fun e e' => e.config = config ∧ ∀ a, AlikeSince start a e e') (fun _ => true)
    (fun c hc' e e' ⟨hconfig, halike⟩ =>
      ⟨(step_config e c).trans hconfig, fun a => (halike a).step (hconfig ▸ hc) (hclock c hc')⟩)
    (fun c _ _ e e' ⟨_, halike⟩ =>
      answer_congr (halike .global).config (halike .global).registry (hsame halike) c) hstart
  rw [List.filter_eq_self.mpr fun _ _ => rfl, List.filter_eq_self.mpr fun _ _ => rfl] at hanswers
  exact ⟨hanswers, (hafter .global).registry, hsame hafter⟩

/-- **Forgetting is complete.** Take a run of a new engine without a lifetime of zero, and a continuation that lasts
less than a second. If the run ends with a reset, every operation of the continuation is answered as by a new engine,
and leaves the same mappings and sessions. If it ends with the reset of one session, or with a call that removes it,
what that session is told in the continuation, and its entry at the end, are the same as after any run of a new engine
that does not act on the session and leads to the same mappings; leaving out the calls that act on the session is such
a run. -/
theorem forgetting_complete (config : EngineConfig) (hlasting : config.sessions.Lasting) (calls : List Call) (d : Call)
    (start : Instant) (rest : List Call)
    (hclock : ∀ c ∈ rest, start.nanos ≤ c.now.nanos ∧ c.now.nanos < start.nanos + 1000000000) :
    let e := (new config).after (calls ++ [d])
    (d.operation = .reset →
        e.answers rest = (new config).answers rest ∧ (e.after rest).registry = ((new config).after rest).registry ∧
          (e.after rest).store = ((new config).after rest).store) ∧
      ∀ s, d.operation = .resetSession s ∨ ((new config).after calls).Removes s d →
        (∀ others, (∀ c ∈ others, c.operation.session? config ≠ some s) →
            ((new config).after others).registry = e.registry →
            e.answersOn s rest = ((new config).after others).answersOn s rest ∧
              (e.after rest).store.sessions[s]? = (((new config).after others).after rest).store.sessions[s]?) ∧
          (∀ c ∈ unseen config s (calls ++ [d]), c.operation.session? config ≠ some s) ∧
          ((new config).after (unseen config s (calls ++ [d]))).registry = e.registry := by
  intro e
  have hconfig : e.config = config := after_config (new config) (calls ++ [d])
  have hlast : e = ((new config).after calls).step d := after_concat (new config) calls d
  constructor
  · intro hreset
    have hempty : e = ((new config).after calls).reset := by
      rw [hlast]
      unfold step
      rw [hreset]
      rfl
    apply answers_of_empty hlasting hconfig
    · rw [hempty]
      rfl
    · rw [hempty]
      rfl
    · exact hclock
  · intro s hremoved
    have hgone : e.store.sessions[s]? = none := by
      rw [hlast]
      exact sessions_step_of_forgotten hremoved
    refine ⟨?_, fun c hc => session?_of_mem_unseen hc, registry_after_unseen rfl config s (calls ++ [d])⟩
    intro others hothers hregistry
    have hunseen : ((new config).after others).store.sessions[s]? = none :=
      sessions_after_of_untouched (e := new config) hothers (Store.sessions_empty s)
    -- Neither engine holds the session, so they agree on it whatever else they hold.
    have hagree : AgreeOn s e ((new config).after others) :=
      ⟨hconfig.trans (after_config (new config) others).symm, hregistry.symm, hgone.trans hunseen.symm⟩
    exact hagree.answersOn (hconfig ▸ hlasting) hgone hclock

/-- A session is minted and `a` meets a stub; then everything is reset, or `a` is dropped for being idle. In the
continuation the stub is registered again, and a session is minted. -/
theorem forgetting_complete_of_progress :
    let a : SessionId := ⟨"a", by decide⟩
    let first : StubMapping := ⟨⟨1⟩, 5, .always, some ⟨"S", some "Started", some "Seen"⟩, .ofStatus 201⟩
    let r := Request.new "GET" "/"
    let calls : List Call := [⟨⟨0⟩, .register first⟩, ⟨⟨1⟩, .serve ⟨"m", by decide⟩ r⟩, ⟨⟨2⟩, .matchIn a r⟩]
    let reset : Call := ⟨⟨3⟩, .reset⟩
    let evict : Call := ⟨⟨3⟩, .evictIdle ⟨60000000003⟩ ⟨60000000000⟩⟩
    let rest : List Call := [⟨⟨4⟩, .register first⟩, ⟨⟨5⟩, .serve ⟨"n", by decide⟩ r⟩, ⟨⟨6⟩, .matchIn a r⟩,
      ⟨⟨7⟩, .scenarios a⟩]
    ((new {}).after calls).store.peek a "S" = some "Seen" ∧
      ((new {}).after (calls ++ [reset])).answers rest = (new {}).answers rest ∧
      ((new {}).after (calls ++ [evict])).answersOn a rest =
        ((new {}).after (unseen {} a (calls ++ [evict]))).answersOn a rest := by
  intro a first r calls reset evict rest
  have hlasting : ({} : EngineConfig).sessions.Lasting := ⟨by decide, fun _ h => by cases h⟩
  have hclock : ∀ c ∈ rest, (4 : Nat) ≤ c.now.nanos ∧ c.now.nanos < 4 + 1000000000 := by decide
  obtain ⟨hreset, -⟩ := forgetting_complete {} hlasting calls reset ⟨4⟩ rest hclock
  obtain ⟨-, hremoved⟩ := forgetting_complete {} hlasting calls evict ⟨4⟩ rest hclock
  obtain ⟨hsame, huntouched, hregistry⟩ :=
    hremoved a (.inr ⟨(by decide +kernel : _ = _), (by decide +kernel : _ = _)⟩)
  exact ⟨by decide +kernel, (hreset rfl).1, (hsame _ huntouched hregistry).1⟩

end Engine
end ScenarioStubs
