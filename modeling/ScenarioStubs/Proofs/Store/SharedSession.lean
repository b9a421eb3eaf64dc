import ScenarioStubs.Proofs.Store.Operation

/-!
# The shared session does not expire

Dropping idle sessions spares the shared session by its identifier, dropping marked ones only because the shared session
is never marked. So its mark is what every operation has to keep off (`not_isMinted_global_perform`); then no eviction
touches its entry (`sessions_evict_global`), and its pairs go with a reset only: `shared_session_kept`.
-/

namespace ScenarioStubs

namespace Store

variable {st : Store} {now reading : Instant} {limit : Duration} {op : Operation} {n : String}

/-- No operation marks the shared session. -/
theorem not_isMinted_global_perform (h : st.isMinted .global = false) :
    (st.perform now op).isMinted .global = false := by
  rw [← Bool.not_eq_true] at *
  intro hmarked
  cases op with
  | markMinted s =>
    obtain hbefore | ⟨heq, hne, -⟩ := isMinted_markMinted.mp hmarked
    · exact h hbefore
    · exact hne heq.symm
  | adopt s => exact h (isMinted_adopt.mp hmarked).2
  | getState | setState | resetScenario | setHeld | release | resetSession | resetAll | evictIdle | evictMinted =>
    refine h ((keeps_perform (fun s heq => ?_) fun s heq => ?_).isMinted_iff.mp hmarked).2 <;> cases heq

/-- As long as the shared session is not marked, no eviction drops or changes its entry. -/
theorem sessions_evict_global (h : st.isMinted .global = false) :
    (st.evictIdle reading limit).2.sessions[SessionId.global]? = st.sessions[SessionId.global]? ∧
      (st.evictMinted reading limit).2.sessions[SessionId.global]? = st.sessions[SessionId.global]? := by
  unfold evictIdle evictMinted
  rw [sessions_evictWhere, sessions_evictWhere]
  cases hentry : st.sessions[SessionId.global]? with
  | none => exact ⟨rfl, rfl⟩
  | some entry =>
    have hunmarked := minted_of_not_isMinted h hentry
    constructor
    · rw [Option.filter_some, SessionId.isGlobal_iff.mpr rfl]
      rfl
    · rw [Option.filter_some, hunmarked]
      rfl

/-- A pair of the shared session that is not marked is dropped by a reset only. -/
theorem resets_of_drops_global (h : st.isMinted .global = false) (hstored : (st.peek .global n).isSome = true)
    (hgone : (st.perform now op).peek .global n = none) : op = .resetAll ∨ op = .resetSession .global := by
  rw [← Option.not_isSome_iff_eq_none] at hgone
  by_cases hdrop : op.MayDrop .global
  · have hentry : ∀ {st' : Store}, st'.sessions[SessionId.global]? = st.sessions[SessionId.global]? →
        (st'.peek .global n).isSome = true := fun hkept => by rwa [peek_congr .global hkept n]
    cases op with
    | resetAll => exact .inl rfl
    | resetSession s => exact .inr (congrArg Operation.resetSession hdrop)
    | evictIdle reading limit => exact absurd (hentry (sessions_evict_global h).1) hgone
    | evictMinted reading limit => exact absurd (hentry (sessions_evict_global h).2) hgone
    | getState | setState | resetScenario | setHeld | release | markMinted | adopt => cases hdrop
  · exact absurd (isSome_peek_perform hstored hdrop) hgone

/-- **The shared session does not expire.** After any run of store operations, whatever sessions they mark and adopt,
the shared session is not marked, and an eviction with any reading of the clock and any span leaves its entry as it is.
The next operation to drop one of its pairs resets all sessions, or the shared one. -/
theorem shared_session_kept (calls : List (Instant × Operation)) :
    (empty.after calls).isMinted .global = false ∧
      (∀ now reading limit,
        ((empty.after calls).perform now (.evictIdle reading limit)).sessions[SessionId.global]? =
            (empty.after calls).sessions[SessionId.global]? ∧
          ((empty.after calls).perform now (.evictMinted reading limit)).sessions[SessionId.global]? =
            (empty.after calls).sessions[SessionId.global]?) ∧
      ∀ now op n, ((empty.after calls).peek .global n).isSome = true →
        ((empty.after calls).perform now op).peek .global n = none →
          op = .resetAll ∨ op = .resetSession .global := by
  have hunmarked : (empty.after calls).isMinted .global = false :=
    after_preserves (fun st => st.isMinted .global = false) (fun _ _ _ => not_isMinted_global_perform)
      (isMinted_of_none (sessions_empty .global)) calls
  exact ⟨hunmarked, fun _ _ _ => sessions_evict_global hunmarked, fun _ _ _ => resets_of_drops_global hunmarked⟩

/-- The shared session and `a` hold a state, and both are told to be marked. An eviction drops `a` and spares the shared
session, whose pair goes with a reset. -/
theorem shared_session_kept_after_mark :
    let a : SessionId := ⟨"a", by decide⟩
    let calls : List (Instant × Operation) := [(⟨0⟩, .setState .global "S" "Seen"), (⟨1⟩, .setState a "S" "Seen"),
      (⟨2⟩, .markMinted .global), (⟨3⟩, .markMinted a), (⟨4⟩, .evictMinted ⟨2⟩ ⟨0⟩)]
    let st := empty.after calls
    st.isMinted .global = false ∧ st.peek .global "S" = some "Seen" ∧ st.sessions[a]? = none ∧
      (st.perform ⟨5⟩ (.evictMinted ⟨1000000000⟩ ⟨0⟩)).peek .global "S" = some "Seen" ∧
      (st.perform ⟨5⟩ .resetAll).peek .global "S" = none ∧
      ∀ op, (st.perform ⟨5⟩ op).peek .global "S" = none → op = .resetAll ∨ op = .resetSession .global := by
  intro a calls st
  obtain ⟨hunmarked, hspared, hdropped⟩ := shared_session_kept calls
  have hstored : st.peek .global "S" = some "Seen" := by decide +kernel
  have hentry := (hspared ⟨5⟩ ⟨1000000000⟩ ⟨0⟩).2
  refine ⟨hunmarked, hstored, by decide +kernel, ?_, by decide +kernel, fun op => hdropped ⟨5⟩ op "S" ?_⟩
  · exact (peek_congr .global hentry "S").trans hstored
  · rw [hstored]
    rfl

end Store

end ScenarioStubs
