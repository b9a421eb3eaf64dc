import Mathlib.Data.List.Induction
import ScenarioStubs.Proofs.Since
import ScenarioStubs.Proofs.Store.Effect

/-!
# What the history of a store tells

A run of operations tells, without a look at what the store holds: which pairs have been created since their session was
last removed (`Created`), what was written to them last (`LastWritten`), when their session was last touched
(`LastTouched`), and whether it was marked and not adopted since (`Marked`). Each call keeps the store as the run so far
describes it (`Describes.step`), so it is described by the whole run (`describes_after`); `store_is_last_writer_map`
reads off the states of the pairs, what asking for one of them does, and which sessions an eviction removes.
-/

namespace ScenarioStubs
namespace Store

/-! ## What a run tells -/

/-- The pair was created, and its session not removed since. -/
def Created (calls : List (Instant × Operation)) (t : SessionId) (n : String) : Prop :=
  ∃ i, SinceAt (fun _ c => c.2.Creates t n) (fun before c => ¬(empty.after before).Removes c.1 t c.2) calls i

/-- The state was written to the pair, and since then none was written there and its session not removed. -/
def LastWritten (calls : List (Instant × Operation)) (t : SessionId) (n v : String) : Prop :=
  ∃ i, SinceAt (fun before c => (empty.after before).Writes t n v c.2)
    (fun before c => ¬(empty.after before).Removes c.1 t c.2 ∧ ∀ v', ¬(empty.after before).Writes t n v' c.2) calls i

/-- The session was touched at the given reading of the clock, and neither touched nor removed since. -/
def LastTouched (calls : List (Instant × Operation)) (t : SessionId) (now : Instant) : Prop :=
  ∃ i, SinceAt (fun _ c => c.1 = now ∧ c.2.Touches t)
    (fun before c => ¬(empty.after before).Removes c.1 t c.2 ∧ ¬c.2.Touches t) calls i

/-- The session was marked when some pair of it was created, and neither adopted nor removed since. The shared session
is never marked. -/
def Marked (calls : List (Instant × Operation)) (t : SessionId) : Prop :=
  ∃ i, SinceAt (fun before c => c.2 = .markMinted t ∧ t ≠ .global ∧ ∃ n, Created before t n)
    (fun before c => ¬(empty.after before).Removes c.1 t c.2 ∧ c.2 ≠ .adopt t) calls i

variable {calls : List (Instant × Operation)} {c : Instant × Operation} {t : SessionId} {n v : String} {now : Instant}

theorem created_concat : Created (calls ++ [c]) t n ↔
    c.2.Creates t n ∨ Created calls t n ∧ ¬(empty.after calls).Removes c.1 t c.2 :=
  exists_sinceAt_concat

theorem lastWritten_concat : LastWritten (calls ++ [c]) t n v ↔ (empty.after calls).Writes t n v c.2 ∨
    LastWritten calls t n v ∧ ¬(empty.after calls).Removes c.1 t c.2 ∧ ∀ v', ¬(empty.after calls).Writes t n v' c.2 :=
  exists_sinceAt_concat

theorem lastTouched_concat : LastTouched (calls ++ [c]) t now ↔ (c.1 = now ∧ c.2.Touches t) ∨
    LastTouched calls t now ∧ ¬(empty.after calls).Removes c.1 t c.2 ∧ ¬c.2.Touches t :=
  exists_sinceAt_concat

theorem marked_concat : Marked (calls ++ [c]) t ↔
    (c.2 = .markMinted t ∧ t ≠ .global ∧ ∃ n, Created calls t n) ∨
      Marked calls t ∧ ¬(empty.after calls).Removes c.1 t c.2 ∧ c.2 ≠ .adopt t :=
  exists_sinceAt_concat

theorem after_concat (st : Store) : st.after (calls ++ [c]) = (st.after calls).perform c.1 c.2 := by
  unfold after
  rw [List.foldl_append]
  rfl

/-! ## The invariant -/

/-- The run tells what the store holds. -/
structure Describes (calls : List (Instant × Operation)) (st : Store) : Prop where
  stored : ∀ t n, (st.peek t n).isSome = true ↔ Created calls t n
  state : ∀ t n v, st.effectiveState t n = v ↔
    LastWritten calls t n v ∨ (∀ v', ¬LastWritten calls t n v') ∧ v = startState
  session : ∀ t, st.sessions[t]?.isSome = true ↔ ∃ n, Created calls t n
  seen : ∀ t now, st.lastSeen? t = some now ↔ LastTouched calls t now
  minted : ∀ t, st.isMinted t = true ↔ Marked calls t

theorem describes_nil : Describes [] empty := by
  have hnone : ∀ t : SessionId, empty.sessions[t]? = none := sessions_empty
  have hpeek : ∀ t n, empty.peek t n = none := fun t n => by rw [peek, hnone, Option.bind_none]
  have hcreated : ∀ t n, ¬Created [] t n := fun _ _ => not_exists_sinceAt_nil
  constructor
  case stored =>
    intro t n
    rw [hpeek]
    exact iff_of_false Bool.false_ne_true (hcreated t n)
  case state =>
    intro t n v
    have hnever : ∀ v, ¬LastWritten [] t n v := fun _ => not_exists_sinceAt_nil
    rw [effectiveState, hpeek]
    exact ⟨fun h => .inr ⟨hnever, h.symm⟩, fun h => (h.resolve_left (hnever v)).2.symm⟩
  case session =>
    intro t
    rw [hnone]
    exact iff_of_false Bool.false_ne_true (not_exists.mpr (hcreated t))
  case seen =>
    intro t now
    rw [lastSeen?, stamp, hnone]
    exact iff_of_false (Option.some_ne_none now).symm not_exists_sinceAt_nil
  case minted =>
    intro t
    rw [isMinted_of_none (hnone t)]
    exact iff_of_false Bool.false_ne_true not_exists_sinceAt_nil

namespace Describes

/-- With one more call, the state of a pair is what was written to it last, or still the start state. -/
theorem state_step (h : Describes calls (empty.after calls)) (c : Instant × Operation) (t : SessionId) (n v : String) :
    ((empty.after calls).perform c.1 c.2).effectiveState t n = v ↔ LastWritten (calls ++ [c]) t n v ∨
      (∀ v', ¬LastWritten (calls ++ [c]) t n v') ∧ v = startState := by
  simp only [lastWritten_concat]
  by_cases hremoves : (empty.after calls).Removes c.1 t c.2
  · have hwrites : ∀ v, ¬(empty.after calls).Writes t n v c.2 := fun v => hremoves.mayDrop.not_writes
    rw [effectiveState_of_removes hremoves]
    simp [hremoves, hwrites, eq_comm]
  by_cases hwrites : ∃ v', (empty.after calls).Writes t n v' c.2
  · obtain ⟨v', hv'⟩ := hwrites
    rw [effectiveState_of_writes hv']
    constructor
    · rintro rfl
      exact .inl (.inl hv')
    · rintro ((hv | ⟨-, -, hnone⟩) | ⟨hnone, -⟩)
      · exact hv'.unique hv
      · exact absurd hv' (hnone v')
      · exact absurd (.inl hv') (hnone v')
  · have hwrites := not_exists.mp hwrites
    rw [effectiveState_of_not_writes hremoves hwrites, h.state t n v]
    simp [hremoves, hwrites]

/-- With one more call, a session was last seen when it was touched last. -/
theorem seen_step (h : Describes calls (empty.after calls)) (c : Instant × Operation) (t : SessionId) (now : Instant) :
    ((empty.after calls).perform c.1 c.2).lastSeen? t = some now ↔ LastTouched (calls ++ [c]) t now := by
  rw [lastTouched_concat]
  by_cases htouches : c.2.Touches t
  · rw [lastSeen?_of_touches htouches]
    simp [htouches]
  by_cases hremoves : (empty.after calls).Removes c.1 t c.2
  · rw [lastSeen?_of_removes hremoves]
    simp [htouches, hremoves]
  · rw [lastSeen?_of_not_touches htouches hremoves, h.seen t now]
    simp [htouches, hremoves]

theorem step (h : Describes calls (empty.after calls)) (c : Instant × Operation) :
    Describes (calls ++ [c]) ((empty.after calls).perform c.1 c.2) where
  stored t n := by rw [isSome_peek_perform_iff, created_concat, h.stored]
  state := h.state_step c
  session t := by
    rw [isSome_sessions_perform_iff, h.session]
    simp only [created_concat, exists_or, exists_and_right]
    rfl
  seen := h.seen_step c
  minted t := by rw [isMinted_perform_iff, marked_concat, h.session, h.minted]

end Describes

/-- Every run from nothing stored tells what the store holds after it. -/
theorem describes_after (calls : List (Instant × Operation)) : Describes calls (empty.after calls) := by
  induction calls using List.reverseRecOn with
  | nil => exact describes_nil
  | append_singleton calls c ih =>
    rw [after_concat]
    exact ih.step c

/-- **The store is a map of the last writes.** After a run from nothing stored, a pair is stored exactly if it was
created and its session not removed since, and then it is in the state that was written to it last since, or in the
start state if none was. Asking for a pair gives that state, stores the pair, and leaves every other pair alone. What
removes a session is a reset or an eviction, and an eviction removes the sessions that were last touched longer ago than
its limit: the idle ones other than the shared session, or those that were marked and not adopted since. -/
theorem store_is_last_writer_map (calls : List (Instant × Operation)) :
    (∀ t n, (empty.after calls).peek t n = none ↔ ¬Created calls t n) ∧
      (∀ t n v, (empty.after calls).peek t n = some v ↔ Created calls t n ∧
        (LastWritten calls t n v ∨ (∀ v', ¬LastWritten calls t n v') ∧ v = startState)) ∧
      (∀ now t n, ((empty.after calls).getState now t n).1 = ((empty.after calls).peek t n).getD startState ∧
        ((empty.after calls).getState now t n).2.peek t n = some ((empty.after calls).getState now t n).1 ∧
        ∀ t' n', ¬(t' = t ∧ n' = n) →
          ((empty.after calls).getState now t n).2.peek t' n' = (empty.after calls).peek t' n') ∧
      (∀ now t reading limit, (empty.after calls).Removes now t (.evictIdle reading limit) ↔
        t ≠ .global ∧ ∃ seen, LastTouched calls t seen ∧ limit.nanos < (reading.since seen).nanos) ∧
      (∀ now t reading limit, (empty.after calls).Removes now t (.evictMinted reading limit) ↔
        Marked calls t ∧ ∃ seen, LastTouched calls t seen ∧ limit.nanos < (reading.since seen).nanos) := by
  have h := describes_after calls
  refine ⟨fun t n => ?_, fun t n v => ?_, fun now t n => ⟨?_, ?_, fun t' n' hne => ?_⟩, fun now t reading limit => ?_,
    fun now t reading limit => ?_⟩
  · rw [← h.stored, Option.not_isSome_iff_eq_none]
  · rw [← h.stored, ← h.state, effectiveState]
    cases (empty.after calls).peek t n <;> simp
  · exact effectiveState_touch _ t t now [n] n
  · rw [getState, effectiveState_touch]
    exact (peek_touch _ t t now [n] n).trans (if_pos ⟨rfl, List.mem_singleton_self n⟩)
  · exact (peek_touch _ t t' now [n] n').trans (if_neg fun heq => hne ⟨heq.1, List.mem_singleton.mp heq.2⟩)
  · simp only [removes_evictIdle_iff, h.seen]
  · simp only [removes_evictMinted_iff, h.seen, h.minted]

end Store
end ScenarioStubs
