import ScenarioStubs.Proofs.Bisection
import ScenarioStubs.Proofs.Store.Basic
import ScenarioStubs.Scenario.Cells

/-!
# Holding scenarios and letting them go

- Finding a held scenario is looking its name up (`Cells.state?_eq`); putting it into a state gives the state before,
  and changes that scenario alone (`Cells.set_fst`, `Cells.state?_set`).
- Held scenarios show the states of their pairs (`hold_state?`), and releasing writes to the pairs that are stored and
  held, and to no other (`peek_release`).
- Releasing what was held, untouched, changes nothing (`release_hold`). Releasing it after one held scenario was put
  into a state is writing that state (`release_set_hold`).
-/

namespace ScenarioStubs

/-- The entry with the states of a list written, in turn. -/
def SessionEntry.writeAll (e : SessionEntry) (states : List (String × String)) : SessionEntry :=
  states.foldl (fun e p => e.write p.1 p.2) e

namespace SessionEntry

theorem writeAll_minted : ∀ (states : List (String × String)) (e : SessionEntry),
    (e.writeAll states).minted = e.minted
  | [], _ => rfl
  | p :: states, e => (writeAll_minted states (e.write p.1 p.2)).trans (write_minted e p.1 p.2)

theorem writeAll_lastSeen : ∀ (states : List (String × String)) (e : SessionEntry),
    (e.writeAll states).lastSeen = e.lastSeen
  | [], _ => rfl
  | p :: states, e => (writeAll_lastSeen states (e.write p.1 p.2)).trans (write_lastSeen e p.1 p.2)

/-- Writing an ascending list of states overwrites each stored scenario that the list names. -/
theorem writeAll_get? (n : String) : ∀ (states : List (String × String)) (e : SessionEntry), Ascending states →
    (e.writeAll states).scenarios.get? n = (e.scenarios.get? n).map fun v => (SortedMap.lookup n states).getD v
  | [], e, _ => by cases h : e.scenarios.get? n <;> simp [writeAll, h]
  | (name, state) :: states, e, h => by
    have ih := writeAll_get? n states (e.write name state) (List.pairwise_cons.mp h).2
    refine Eq.trans ih ?_
    rw [write_get?, SortedMap.lookup_cons]
    by_cases hn : n = name
    · subst hn
      rw [SortedMap.lookup_tail h]
      cases e.scenarios.get? n <;> simp
    · simp [hn]

end SessionEntry

/-! ## Held scenarios -/

namespace Cells

variable (c : Cells) (n name state : String)

theorem state?_eq : c.state? n = c.states.get? n := (c.states.get?_eq_map_position? n).symm

/-- A held scenario is put into the state; the state before is given back. -/
theorem set_of_held {previous : String} (h : c.state? name = some previous) :
    c.set name state = (some previous, { c with states := c.states.insert name state }) := by
  obtain ⟨i, hi, rfl⟩ := Option.map_eq_some_iff.mp h
  have hname : (c.states.entryAt i).1 = name := SortedMap.position?_eq_some_iff.mp hi
  unfold set
  rw [hi, ← hname, ← SortedMap.replaceAt_eq_insert]

theorem set_of_not_held (h : c.state? name = none) : c.set name state = (none, c) := by
  unfold set
  rw [Option.map_eq_none_iff.mp h]

theorem set_fst : (c.set name state).1 = c.state? name := by
  cases h : c.state? name with
  | none => rw [c.set_of_not_held name state h]
  | some previous => rw [c.set_of_held name state h]

theorem set_session : (c.set name state).2.session = c.session := by
  unfold set
  split <;> rfl

theorem set_names : (c.set name state).2.names = c.names := by
  unfold set
  split
  case h_1 i hi => exact c.states.keys_replaceAt i state
  case h_2 => rfl

theorem state?_set :
    (c.set name state).2.state? n = if n = name then (c.state? n).map fun _ => state else c.state? n := by
  cases h : c.state? name with
  | none =>
    rw [c.set_of_not_held name state h]
    by_cases hn : n = name
    · rw [if_pos hn, hn, h, Option.map_none]
    · rw [if_neg hn]
  | some previous =>
    rw [c.set_of_held name state h, state?_eq, SortedMap.get?_insert]
    by_cases hn : n = name
    · rw [if_pos hn, if_pos hn, hn, h, Option.map_some]
    · rw [if_neg hn, if_neg hn, state?_eq]

end Cells

namespace Store

variable (st : Store) (now : Instant) (s t : SessionId) (names : List String)

/-! ## Holding -/

theorem hold_snd : (st.hold now s names).2 = st.touch now s names := rfl

/-- Exactly the named scenarios are held, in their states. -/
theorem hold_state? (n : String) :
    (st.hold now s names).1.state? n = if n ∈ names then some (st.effectiveState s n) else none := by
  refine (Cells.state?_eq _ n).trans ((SortedMap.get?_ofList_map _ names n).trans ?_)
  rw [effectiveState_touch]

/-! ## Releasing -/

theorem sessions_release_list : ∀ (states : List (String × String)) (st : Store),
    (states.foldl (fun st p => st.write s p.1 p.2) st).sessions[t]? =
      if t = s then st.sessions[s]?.map (·.writeAll states) else st.sessions[t]?
  | [], st => by
    by_cases ht : t = s
    · subst ht
      cases h : st.sessions[t]? <;> simp [SessionEntry.writeAll, h]
    · simp [ht]
  | p :: states, st => by
    rw [List.foldl_cons, sessions_release_list states, sessions_write, sessions_write]
    by_cases ht : t = s
    · simp only [ht, if_true, Option.map_map]
      rfl
    · simp [ht]

/-- Releasing changes the entry of one session alone. -/
theorem sessions_release (c : Cells) :
    (st.release c).sessions[t]? =
      if t = c.session then st.sessions[c.session]?.map (·.writeAll c.states.toList) else st.sessions[t]? :=
  sessions_release_list c.session t c.states.toList st

/-- Releasing overwrites the stored pairs that are held, and changes no other. -/
theorem peek_release (c : Cells) (n : String) :
    (st.release c).peek t n =
      if t = c.session then (st.peek t n).map fun v => (c.state? n).getD v else st.peek t n := by
  unfold peek
  rw [sessions_release]
  by_cases ht : t = c.session
  · subst ht
    cases st.sessions[c.session]? with
    | none => simp
    | some e =>
      simp only [if_true, Option.map_some, Option.bind_some, Cells.state?_eq]
      exact SessionEntry.writeAll_get? n c.states.toList e c.states.ascending
  · simp [ht]

theorem stamp_release (c : Cells) : (st.release c).stamp t = st.stamp t := by
  unfold stamp
  rw [sessions_release]
  by_cases ht : t = c.session
  · subst ht
    simp [Option.map_map, Function.comp_def, SessionEntry.writeAll_minted, SessionEntry.writeAll_lastSeen]
  · simp [ht]

/-- Releasing scenarios as they were held changes nothing. -/
theorem release_hold : (st.touch now s names).release (st.hold now s names).1 = st.touch now s names := by
  refine eq_of_peek_eq (fun t n => ?_) fun t => stamp_release _ t _
  rw [peek_release, hold_state?]
  by_cases ht : t = s
  · subst ht
    rw [peek_touch]
    by_cases hn : n ∈ names
    · simp [hn, Store.hold]
    · simp [hn]
  · exact if_neg ht

/-- Releasing scenarios after one of them was put into a state is writing that state. -/
theorem release_set_hold {n : String} (hn : n ∈ names) (v : String) :
    (st.touch now s names).release ((st.hold now s names).1.set n v).2 = (st.touch now s names).write s n v := by
  refine eq_of_peek_eq (fun t m => ?_) fun t => (stamp_release _ t _).trans (stamp_write _ s t n v).symm
  have hsession : ((st.hold now s names).1.set n v).2.session = s := Cells.set_session _ n v
  rw [peek_release, hsession, Cells.state?_set, hold_state?, peek_write]
  by_cases ht : t = s
  · subst ht
    by_cases hm : m = n
    · simp [hm, hn]
    · rw [peek_touch]
      by_cases hmn : m ∈ names <;> simp [hm, hmn]
  · simp [ht]

end Store

end ScenarioStubs
