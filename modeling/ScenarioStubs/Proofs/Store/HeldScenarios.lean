import ScenarioStubs.Proofs.Store.Effect

/-!
# Held scenarios as a view of the store

Held scenarios are named once each, in ascending order (`Cells.pairwise_names`, `mem_names_hold`). Putting them into
states changes neither which they are nor whose (`Cells.names_setAll`), so that after any number of writes each held
scenario is in the state that was written to it last, and no other scenario is in any (`state?_setAll_hold`). Letting
them go stores these states: `held_scenarios_mirror_pairs`.
-/

namespace ScenarioStubs

namespace Cells

variable (c : Cells)

theorem pairwise_names : c.names.Pairwise (· < ·) := c.states.pairwise_keys.imp compareOfLessAndEq_eq_lt.mp

theorem mem_names_iff {n : String} : n ∈ c.names ↔ (c.state? n).isSome = true := by
  rw [state?_eq]
  exact SortedMap.mem_keys

theorem names_setAll (writes : List (String × String)) : (c.setAll writes).names = c.names := by
  induction writes generalizing c with
  | nil => rfl
  | cons w rest ih => exact (ih (c.set w.1 w.2).2).trans (c.set_names w.1 w.2)

end Cells

namespace Store

variable (st : Store) (now : Instant) (s t : SessionId) (names : List String) (writes : List (String × String))

theorem mem_names_hold (n : String) : n ∈ (st.hold now s names).1.names ↔ n ∈ names := by
  rw [Cells.mem_names_iff, hold_state?]
  by_cases hn : n ∈ names <;> simp [hn]

/-- Held scenarios that were put into states are in the state written last, or in the one of their pair. -/
theorem state?_setAll_hold (n : String) : ((st.hold now s names).1.setAll writes).state? n =
    if n ∈ names then some ((writes.reverse.lookup n).getD (st.effectiveState s n)) else none := by
  rw [Cells.state?_setAll, hold_state?]
  by_cases hn : n ∈ names
  · rw [if_pos hn, if_pos hn, Option.map_some]
  · rw [if_neg hn, if_neg hn, Option.map_none]

/-- Once they are let go, the pairs of held scenarios are in the states of these. -/
theorem peek_release_setAll_hold (n : String) :
    ((st.hold now s names).2.release ((st.hold now s names).1.setAll writes)).peek t n =
      if t = s ∧ n ∈ names then ((st.hold now s names).1.setAll writes).state? n else st.peek t n := by
  refine (peek_setHeld st now s t names writes n).trans ?_
  by_cases h : t = s ∧ n ∈ names
  · rw [if_pos h, if_pos h, state?_setAll_hold, if_pos h.2]
  · rw [if_neg h, if_neg h]

/-- **Held scenarios mirror their pairs.** Whatever is stored, holding scenarios of a session, listed in any order and
any number of times, names each of them once, ascending strictly. A held scenario is in the state of its pair, and any
other in none.

Let some of them be put into states, one after the other. Then the same scenarios of the same session are held, each in
the state that it was put into last, or still in that of its pair. Putting another one into a state gives the state it
was in and changes it alone; with a scenario that is not held, that gives nothing and changes nothing. When they are let
go, the pairs of the held scenarios are in their states, and every other pair is as it was. -/
theorem held_scenarios_mirror_pairs (st : Store) (now : Instant) (s : SessionId) (names : List String) :
    let held := (st.hold now s names).1
    held.names.Pairwise (· < ·) ∧ (∀ n, n ∈ held.names ↔ n ∈ names) ∧
      (∀ n, held.state? n = if n ∈ names then some (st.effectiveState s n) else none) ∧
      ∀ writes,
        let cells := held.setAll writes
        (cells.session = s ∧ cells.names = held.names) ∧
          (∀ n, cells.state? n =
            if n ∈ names then some ((writes.reverse.lookup n).getD (st.effectiveState s n)) else none) ∧
          (∀ n ∈ names, ∀ v, (cells.set n v).1 = cells.state? n ∧
            ∀ m, (cells.set n v).2.state? m = if m = n then some v else cells.state? m) ∧
          (∀ n, n ∉ names → ∀ v, cells.set n v = (none, cells)) ∧
          ∀ t n, ((st.hold now s names).2.release cells).peek t n =
            if t = s ∧ n ∈ names then cells.state? n else st.peek t n := by
  intro held
  refine ⟨held.pairwise_names, st.mem_names_hold now s names, st.hold_state? now s names, fun writes => ?_⟩
  intro cells
  have hstate : ∀ n, cells.state? n = _ := st.state?_setAll_hold now s names writes
  refine ⟨⟨held.session_setAll writes, held.names_setAll writes⟩, hstate,
    fun n hn v => ⟨cells.set_fst n v, fun m => ?_⟩, fun n hn v => ?_,
    fun t n => st.peek_release_setAll_hold now s t names writes n⟩
  · rw [cells.state?_set]
    by_cases hm : m = n
    · rw [if_pos hm, if_pos hm, hm, hstate, if_pos hn, Option.map_some]
    · rw [if_neg hm, if_neg hm]
  · exact cells.set_of_not_held n v ((hstate n).trans (if_neg hn))

/-- In a session that has opened `door` and not seen `é`, both are held, `é` listed before `door` and twice. Then `é` is
put into a state twice, and `lamp`, which is not held, once. -/
theorem held_scenarios_mirror_pairs_of_door :
    let s : SessionId := ⟨"a", by decide⟩
    let st := empty.setState ⟨0⟩ s "door" "Open"
    let names := ["é", "door", "é"]
    let held := (st.hold ⟨1⟩ s names).1
    let cells := held.setAll [("é", "Seen"), ("lamp", "Lit"), ("é", "Gone")]
    let stored := (st.hold ⟨1⟩ s names).2.release cells
    held.names = ["door", "é"] ∧ held.state? "door" = some "Open" ∧ held.state? "é" = some startState ∧
      ("é" ∈ names ∧ (cells.set "é" "Back").1 = some "Gone" ∧ (cells.set "é" "Back").2.state? "door" = some "Open") ∧
      ("lamp" ∉ names ∧ cells.set "lamp" "Lit" = (none, cells)) ∧
      stored.peek s "é" = some "Gone" ∧ stored.peek s "door" = some "Open" ∧ stored.peek s "lamp" = none := by
  intro s st names held cells stored
  obtain ⟨-, -, hheld, hwrites⟩ := held_scenarios_mirror_pairs st ⟨1⟩ s names
  obtain ⟨-, hcells, hset, hother, hpeek⟩ := hwrites [("é", "Seen"), ("lamp", "Lit"), ("é", "Gone")]
  have hdoor : st.effectiveState s "door" = "Open" := by decide +kernel
  have hnew : st.effectiveState s "é" = startState := by decide +kernel
  have hgone : cells.state? "é" = some "Gone" := hcells "é"
  have hopen : cells.state? "door" = some "Open" := (hcells "door").trans (congrArg some hdoor)
  have hlamp : "lamp" ∉ names := by decide
  refine ⟨by decide +kernel, (hheld "door").trans (congrArg some hdoor), (hheld "é").trans (congrArg some hnew),
    ⟨by decide, ?_, ?_⟩, ⟨hlamp, hother "lamp" hlamp "Lit"⟩, ?_, ?_, ?_⟩
  · exact (hset "é" (by decide) "Back").1.trans hgone
  · exact ((hset "é" (by decide) "Back").2 "door").trans hopen
  · exact (hpeek s "é").trans hgone
  · exact (hpeek s "door").trans hopen
  · exact (hpeek s "lamp").trans (by decide +kernel)

end Store
end ScenarioStubs
