import Mathlib.Algebra.GroupWithZero.Nat
import ScenarioStubs.Proofs.Store.Effect

/-!
# The views of a store

A store shows which sessions it holds (`activeSessions`, `isEmpty`) and which pairs (`statesFor`, `peek`, `size`). The
listed states of a session are its stored pairs (`mem_statesFor`), ascending by name (`pairwise_statesFor`), and the
size counts them (`size_eq_sum`). Sessions and pairs tell the same because no session is stored without a pair
(`Filled`), which each operation keeps (`Filled.perform`).

Together: `views_agree`.
-/

namespace ScenarioStubs
namespace Store

variable {st : Store} {now : Instant} {op : Operation} {s : SessionId} {n v : String}

/-! ## The states of a session -/

theorem mem_statesFor : (n, v) ∈ st.statesFor s ↔ st.peek s n = some v := by
  unfold statesFor peek
  cases st.sessions[s]? with
  | none => simp
  | some entry => exact SortedMap.mem_toList

theorem pairwise_statesFor (st : Store) (s : SessionId) : ((st.statesFor s).map (·.1)).Pairwise (· < ·) := by
  unfold statesFor
  cases st.sessions[s]? with
  | none => exact .nil
  | some entry => exact entry.scenarios.pairwise_keys.imp compareOfLessAndEq_eq_lt.mp

theorem statesFor_ne_nil_iff : st.statesFor s ≠ [] ↔ ∃ n, (st.peek s n).isSome = true := by
  simp only [Option.isSome_iff_exists, ← mem_statesFor]
  constructor
  · intro hne
    obtain ⟨⟨n, v⟩, hmem⟩ := List.exists_mem_of_ne_nil _ hne
    exact ⟨n, v, hmem⟩
  · rintro ⟨n, v, hmem⟩
    exact List.ne_nil_of_mem hmem

/-! ## No session without a pair -/

/-- Every stored session has a stored pair. -/
def Filled (st : Store) : Prop := ∀ s : SessionId, st.sessions[s]?.isSome = true → ∃ n, (st.peek s n).isSome = true

theorem filled_empty : empty.Filled := by
  intro s hstored
  rw [sessions_empty] at hstored
  cases hstored

/-- A session is stored by an operation together with a pair of it, and is removed with all of them. -/
theorem Filled.perform (h : st.Filled) : (st.perform now op).Filled := by
  intro s hstored
  simp only [isSome_peek_perform_iff]
  rcases isSome_sessions_perform_iff.mp hstored with ⟨n, hcreates⟩ | ⟨hbefore, hkept⟩
  · exact ⟨n, .inl hcreates⟩
  · obtain ⟨n, hpeek⟩ := h s hbefore
    exact ⟨n, .inr ⟨hpeek, hkept⟩⟩

theorem filled_after (calls : List (Instant × Operation)) : (empty.after calls).Filled :=
  after_preserves Filled (fun _ _ _ => Filled.perform) filled_empty calls

theorem Filled.isSome_sessions_iff (h : st.Filled) : st.sessions[s]?.isSome = true ↔ st.statesFor s ≠ [] := by
  rw [statesFor_ne_nil_iff]
  constructor
  · exact h s
  · rintro ⟨n, hpeek⟩
    rw [← Option.ne_none_iff_isSome]
    intro hnone
    rw [peek_of_none hnone] at hpeek
    cases hpeek

/-! ## All sessions -/

theorem mem_keys_sessions : s ∈ st.sessions.keys ↔ st.sessions[s]?.isSome = true :=
  Std.ExtTreeMap.mem_keys.trans Std.ExtTreeMap.mem_iff_isSome_getElem?

/-- The size counts the listed states of all stored sessions. -/
theorem size_eq_sum (st : Store) : st.size = (st.sessions.keys.map fun s => (st.statesFor s).length).sum := by
  have hlength : ∀ e ∈ st.sessions.toList, (st.statesFor e.1).length = e.2.scenarios.size := by
    intro e he
    unfold statesFor
    rw [Std.ExtTreeMap.mem_toList_iff_getElem?_eq_some.mp he]
    rfl
  calc st.size = (st.sessions.toList.map fun e => e.2.scenarios.size).sum := List.foldr_map.symm
    _ = (st.sessions.toList.map fun e => (st.statesFor e.1).length).sum :=
      congrArg List.sum (List.map_congr_left fun e he => (hlength e he).symm)
    _ = (st.sessions.keys.map fun s => (st.statesFor s).length).sum := by
      rw [← Std.ExtTreeMap.map_fst_toList_eq_keys, List.map_map]
      rfl

theorem Filled.isEmpty_iff (h : st.Filled) : st.isEmpty = true ↔ st.size = 0 := by
  have hsize : st.size = 0 ↔ ∀ s ∈ st.sessions.keys, st.statesFor s = [] := by
    rw [size_eq_sum, List.sum_eq_zero_iff_forall_eq_nat]
    simp
  have hkeys : st.isEmpty = true ↔ st.sessions.keys = [] := by
    rw [← List.isEmpty_iff, Std.ExtTreeMap.isEmpty_keys]
    rfl
  rw [hsize, hkeys]
  constructor
  · intro hnil s hs
    rw [hnil] at hs
    cases hs
  · intro hall
    refine List.eq_nil_iff_forall_not_mem.mpr fun s hs => ?_
    exact h.isSome_sessions_iff.mp (mem_keys_sessions.mp hs) (hall s hs)

theorem Filled.mem_activeSessions (h : st.Filled) : s ∈ st.activeSessions ↔ s ≠ .global ∧ st.statesFor s ≠ [] := by
  unfold activeSessions
  rw [List.mem_filter, mem_keys_sessions, h.isSome_sessions_iff, Bool.not_eq_true', ← Bool.not_eq_true,
    SessionId.isGlobal_iff]
  exact and_comm

theorem pairwise_activeSessions (st : Store) : (st.activeSessions.map (·.token)).Pairwise (· < ·) := by
  have hkeys : st.sessions.keys.Pairwise fun s t => compare s t = .lt := Std.ExtTreeMap.ordered_keys
  exact List.pairwise_map.mpr ((hkeys.filter _).imp compareOfLessAndEq_eq_lt.mp)

/-- **The views of a store agree.** After any run of store operations, the stored sessions are those with some stored
pair, so that no session is stored exactly if no pair is. The number of pairs is the sum, over the stored sessions, of
the lengths of their lists of states. The list of a session ascends strictly by name and consists of its stored pairs.
The active sessions ascend strictly, and are those sessions, other than the shared one, whose list is not empty. -/
theorem views_agree (calls : List (Instant × Operation)) :
    let st := empty.after calls
    (∀ s : SessionId, st.sessions[s]?.isSome = true ↔ st.statesFor s ≠ []) ∧
      (st.isEmpty = true ↔ st.size = 0) ∧
      st.size = (st.sessions.keys.map fun s => (st.statesFor s).length).sum ∧
      (∀ s, ((st.statesFor s).map (·.1)).Pairwise (· < ·) ∧
        ∀ n v, (n, v) ∈ st.statesFor s ↔ st.peek s n = some v) ∧
      (st.activeSessions.map (·.token)).Pairwise (· < ·) ∧
      ∀ s, s ∈ st.activeSessions ↔ s ≠ .global ∧ st.statesFor s ≠ [] := by
  intro st
  have h : st.Filled := filled_after calls
  exact ⟨fun s => h.isSome_sessions_iff, h.isEmpty_iff, st.size_eq_sum,
    fun s => ⟨st.pairwise_statesFor s, fun n v => mem_statesFor⟩, st.pairwise_activeSessions,
    fun s => h.mem_activeSessions⟩

end Store
end ScenarioStubs
