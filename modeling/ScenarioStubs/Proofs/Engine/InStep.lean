import ScenarioStubs.Proofs.Engine.Counters
import ScenarioStubs.Proofs.Engine.Isolation

/-!
# Engines in step

Two engines that agree on a session may still part ways when the one sweeps and the other does not. Sweeps come after so
many mints, so engines that have also counted the same mints sweep together (`Engine.InStep`): they stay in step by
every operation that is performed on both (`InStep.perform`), and by a request on one of them alone that presents
another session (`inStep_serve_other`).
-/

namespace ScenarioStubs
namespace Engine

/-- The engines agree on a session and have counted the same mints. -/
structure InStep (a : SessionId) (e₁ e₂ : Engine) : Prop extends AgreeOn a e₁ e₂ where
  minted : e₁.stats.minted = e₂.stats.minted

variable {a b : SessionId} {e e₁ e₂ e₃ : Engine} {now : Instant}

namespace InStep

theorem refl (a : SessionId) (e : Engine) : InStep a e e := ⟨.refl a e, rfl⟩

theorem symm (h : InStep a e₁ e₂) : InStep a e₂ e₁ := ⟨h.toAgreeOn.symm, h.minted.symm⟩

theorem trans (h : InStep a e₁ e₂) (h' : InStep a e₂ e₃) : InStep a e₁ e₃ :=
  ⟨h.toAgreeOn.trans h'.toAgreeOn, h.minted.trans h'.minted⟩

/-- What is counted as a mint depends on the settings only. -/
theorem minted_perform (h : InStep a e₁ e₂) (now : Instant) (op : Operation) :
    (e₁.perform now op).2.stats.minted = (e₂.perform now op).2.stats.minted := by
  have h₁ := minted_step e₁ ⟨now, op⟩
  have h₂ := minted_step e₂ ⟨now, op⟩
  rw [← h.config, ← h.minted] at h₂
  exact h₁.trans h₂.symm

/-- A match in any session keeps the agreement. -/
theorem matchIn (h : InStep a e₁ e₂) (now : Instant) (s : SessionId) (r : Request) :
    AgreeOn a (e₁.matchIn now s r).2 (e₂.matchIn now s r).2 := by
  by_cases ha : a = s
  · subst ha
    exact h.toAgreeOn.matchIn_snd now r
  · exact (agreeOn_matchIn_other ha r).symm.trans (h.toAgreeOn.trans (agreeOn_matchIn_other ha r))

/-- After a mint the entry of the session is the same in both engines, since both sweep or neither does. -/
theorem recordMinted (h : InStep a e₁ e₂) (now : Instant) (s : SessionId) :
    AgreeOn a (e₁.recordMinted now s) (e₂.recordMinted now s) := by
  apply h.recordMinted_of_entry
  rw [sessions_recordMinted, sessions_recordMinted, h.sessions_markMinted, h.config, h.minted]

/-- Serving a request in any session, minted or not, keeps the agreement. -/
theorem serve (h : InStep a e₁ e₂) (now : Instant) (fresh : SessionId) (r : Request) :
    AgreeOn a (e₁.serve now fresh r).2 (e₂.serve now fresh r).2 := by
  have hsession : e₂.resolveSession fresh r = e₁.resolveSession fresh r := by
    unfold resolveSession resolver
    rw [h.config]
  have hmatch := h.matchIn now (e₁.resolveSession fresh r).id r
  have hminted := h.minted_perform now (.matchIn (e₁.resolveSession fresh r).id r)
  rw [serve_eq, serve_eq, hsession]
  dsimp only
  -- The match counts no mint, so the engines are in step when a mint is recorded.
  split
  · exact InStep.recordMinted ⟨hmatch, hminted⟩ now _
  · refine ⟨hmatch.config, hmatch.registry, ?_⟩
    rw [Store.sessions_adopt, Store.sessions_adopt]
    split
    case isTrue ha =>
      rw [← ha] at hmatch ⊢
      rw [hmatch.entry]
    case isFalse => exact hmatch.entry

/-- Every operation that is performed on both engines keeps them in step. -/
theorem perform (h : InStep a e₁ e₂) (now : Instant) (op : Operation) :
    InStep a (e₁.perform now op).2 (e₂.perform now op).2 := by
  refine ⟨?_, h.minted_perform now op⟩
  obtain ⟨fresh, r, rfl⟩ | ⟨hserve, hminted, -⟩ := op.serve_or e₁.config
  · exact h.serve now fresh r
  cases hs : op.session? e₁.config with
  | none => exact h.toAgreeOn.perform_shared now hs
  | some b =>
    by_cases hab : a = b
    · subst hab
      exact (h.toAgreeOn.perform_own now hs fun hm => nomatch hminted.symm.trans hm).2
    · have hs₂ : op.session? e₂.config = some b := h.config ▸ hs
      exact (agreeOn_perform_other_of_not_serve hserve hs hab).symm.trans
        (h.toAgreeOn.trans (agreeOn_perform_other_of_not_serve hserve hs₂ hab))

end InStep

/-- A request that presents another session leaves the engine in step with itself. -/
theorem inStep_serve_other {fresh : SessionId} {r : Request} (hid : (e.resolveSession fresh r).id = b)
    (hkept : (e.resolveSession fresh r).isEphemeral = false) (hab : a ≠ b) : InStep a e (e.serve now fresh r).2 := by
  have hmatch : AgreeOn a e (e.matchIn now b r).2 := agreeOn_matchIn_other hab r
  rw [serve_eq]
  simp only [hid, hkept, Bool.false_eq_true, if_false]
  refine ⟨⟨hmatch.config, hmatch.registry, ?_⟩, ?_⟩
  · rw [Store.sessions_adopt, if_neg hab, hmatch.entry]
  · rw [matchIn_eq]
    rfl

end Engine
end ScenarioStubs
