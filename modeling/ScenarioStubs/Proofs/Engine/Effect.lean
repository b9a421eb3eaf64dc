import ScenarioStubs.Proofs.Engine.Choice

/-!
# What a match does to the store

- The states after a match: the named scenarios of the session are stored, each in the state it was in, and the move of
  the best mapping is made (`peek_storeAfter`, `effectiveState_storeAfter`).
- The entry of the session keeps its mark and is seen now (`stamp_storeAfter`), and no other entry changes
  (`sessions_storeAfter_of_ne`).

Both together are `matchIn_store_effect`.
-/

namespace ScenarioStubs
namespace Engine

/-- Whether a scenario is named by a mapping that admits the request. -/
def Names (e : Engine) (r : Request) (n : String) : Prop :=
  ∃ m ∈ e.registry.mappings, m.predicate.evaluate r = .ok true ∧ m.scenarioName = some n

/-- Whether the best mapping moves a scenario to a state. -/
def Moves (e : Engine) (s : SessionId) (r : Request) (n v : String) : Prop :=
  ∃ i m rule, e.IsBest s r i m ∧ m.scenario = some rule ∧ rule.name = n ∧ rule.newState = some v

/-- The state of a scenario in the session of a request, after the request. -/
def stateAfter (e : Engine) (s : SessionId) (r : Request) (n : String) : String :=
  match e.move? s r with
  | none => e.store.effectiveState s n
  | some (name, state) => if n = name then state else e.store.effectiveState s n

variable {e : Engine} {s : SessionId} {r : Request} {n v : String}

/-! ## Names and moves -/

theorem mem_touched_iff : n ∈ e.touched r ↔ e.Names r n := by
  unfold touched Names
  rw [List.mem_filterMap]
  constructor
  · rintro ⟨c, hc, hn⟩
    obtain ⟨hm, hp⟩ := mem_candidates_iff.mp hc
    exact ⟨c.mapping, List.mem_of_getElem? hm, hp, hn⟩
  · rintro ⟨m, hm, hp, hn⟩
    obtain ⟨i, hi⟩ := List.mem_iff_getElem?.mp hm
    exact ⟨⟨i, m⟩, mem_candidates_iff.mpr ⟨hi, hp⟩, hn⟩

theorem touched_eq_nil_iff : e.touched r = [] ↔ ∀ n, ¬e.Names r n := by
  rw [List.eq_nil_iff_forall_not_mem]
  exact forall_congr' fun n => not_congr mem_touched_iff

theorem move?_eq_some_iff : e.move? s r = some (n, v) ↔ e.Moves s r n v := by
  unfold move? Moves
  rw [Option.bind_eq_some_iff]
  constructor
  · rintro ⟨c, hc, hm⟩
    obtain ⟨rule, hs, hn, hv⟩ := StubMapping.move?_eq_some_iff.mp hm
    exact ⟨c.rank, c.mapping, rule, isBest_of_chosen? hc, hs, hn, hv⟩
  · rintro ⟨i, m, rule, hbest, hs, hn, hv⟩
    exact ⟨⟨i, m⟩, chosen?_eq_some_iff.mpr hbest, StubMapping.move?_eq_some_iff.mpr ⟨rule, hs, hn, hv⟩⟩

/-- A scenario that is moved is named. -/
theorem Moves.names (h : e.Moves s r n v) : e.Names r n := by
  obtain ⟨i, m, rule, hbest, hs, hn, -⟩ := h
  exact ⟨m, List.mem_of_getElem? hbest.registered, hbest.eligible.1, by simp [StubMapping.scenarioName, hs, hn]⟩

theorem stateAfter_of_moves (h : e.Moves s r n v) : e.stateAfter s r n = v := by
  simp [stateAfter, move?_eq_some_iff.mpr h]

theorem stateAfter_of_not_moves (h : ¬∃ v, e.Moves s r n v) : e.stateAfter s r n = e.store.effectiveState s n := by
  unfold stateAfter
  cases hm : e.move? s r with
  | none => rfl
  | some p =>
    have hne : n ≠ p.1 := fun hn => h ⟨p.2, move?_eq_some_iff.mp (by rw [hm, hn])⟩
    simp [hne]

/-- Requests that make the same move leave a scenario that was in the same state in the same state. -/
theorem stateAfter_congr {e' : Engine} {s' : SessionId} (hmove : e.move? s r = e'.move? s' r)
    (h : e.store.effectiveState s n = e'.store.effectiveState s' n) : e.stateAfter s r n = e'.stateAfter s' r n := by
  unfold stateAfter
  rw [hmove, h]

/-! ## States -/

variable (now : Instant) (t : SessionId)

/-- After a match the named pairs of the session are stored, and no other pair has changed. -/
theorem peek_storeAfter (n : String) : (e.storeAfter now s r).peek t n =
    if t = s ∧ n ∈ e.touched r then some (e.stateAfter s r n) else e.store.peek t n := by
  unfold storeAfter stateAfter
  cases hm : e.move? s r with
  | none => exact Store.peek_touch e.store s t now (e.touched r) n
  | some p =>
    obtain ⟨name, state⟩ := p
    have hname : name ∈ e.touched r := mem_touched_iff.mpr (move?_eq_some_iff.mp hm).names
    dsimp only
    rw [Store.peek_write, Store.peek_touch, Store.peek_touch]
    by_cases hn : n = name
    · subst hn
      by_cases ht : t = s <;> simp [ht, hname]
    · simp [hn]

/-- After a match every pair of another session is in the state it was in. -/
theorem effectiveState_storeAfter (n : String) : (e.storeAfter now s r).effectiveState t n =
    if t = s then e.stateAfter s r n else e.store.effectiveState t n := by
  rw [Store.effectiveState, peek_storeAfter]
  by_cases ht : t = s
  · subst ht
    by_cases hn : n ∈ e.touched r
    · simp [hn]
    · have hmoves : ¬∃ v, e.Moves t r n v := by
        rintro ⟨v, h⟩
        exact hn (mem_touched_iff.mpr h.names)
      rw [if_neg (fun h => hn h.2), if_pos rfl, stateAfter_of_not_moves hmoves]
      rfl
  · simp [ht, Store.effectiveState]

/-! ## Entries -/

theorem stamp_storeAfter : (e.storeAfter now s r).stamp t =
    if t = s ∧ e.touched r ≠ [] then some (now, e.store.isMinted s) else e.store.stamp t := by
  unfold storeAfter
  split
  · exact Store.stamp_touch e.store s t now (e.touched r)
  · rw [Store.stamp_write, Store.stamp_touch]

theorem sessions_storeAfter_of_ne (ht : t ≠ s) : (e.storeAfter now s r).sessions[t]? = e.store.sessions[t]? := by
  unfold storeAfter
  split
  · rw [Store.sessions_touch, if_neg fun h => ht h.1]
  · rw [Store.sessions_write, if_neg ht, Store.sessions_touch, if_neg fun h => ht h.1]

/-- The entry of the session after a match that names a scenario. -/
theorem sessions_storeAfter_self (h : e.touched r ≠ []) : ∃ entry, (e.storeAfter now s r).sessions[s]? = some entry ∧
    entry.lastSeen = now ∧ entry.minted = e.store.isMinted s ∧
      ∀ n, entry.scenarios.get? n = if n ∈ e.touched r then some (e.stateAfter s r n) else e.store.peek s n := by
  have hstamp := (stamp_storeAfter (e := e) (r := r) now s).trans (if_pos ⟨rfl, h⟩)
  obtain ⟨entry, hentry, heq⟩ := Option.map_eq_some_iff.mp hstamp
  obtain ⟨hseen, hminted⟩ := Prod.mk.inj heq
  refine ⟨entry, hentry, hseen, hminted, fun n => ?_⟩
  have hpeek := peek_storeAfter (e := e) (s := s) (r := r) now s n
  simpa [Store.peek, hentry] using hpeek

theorem storeAfter_of_no_names (h : e.touched r = []) : e.storeAfter now s r = e.store := by
  have hmove : e.move? s r = none := by
    refine Option.eq_none_iff_forall_ne_some.mpr fun p hp => ?_
    have hmem := mem_touched_iff.mpr (move?_eq_some_iff.mp hp).names
    simp [h] at hmem
  simp [storeAfter, hmove, h, Store.touch]

/-- The entry of the session after a match that names a scenario, in terms of the scenarios that are named and moved. -/
theorem exists_sessions_storeAfter (h : ∃ n, e.Names r n) :
    ∃ entry, (e.storeAfter now s r).sessions[s]? = some entry ∧
      (∀ n, (∃ v, entry.scenarios.get? n = some v) ↔ (∃ v, e.store.peek s n = some v) ∨ e.Names r n) ∧
      (∀ n v, e.Moves s r n v → entry.scenarios.get? n = some v) ∧
      (∀ n v, entry.scenarios.get? n = some v → (∃ v', e.Moves s r n v') ∨ v = e.store.effectiveState s n) ∧
      entry.minted = e.store.isMinted s ∧ entry.lastSeen = now := by
  obtain ⟨n, hn⟩ := h
  obtain ⟨entry, hentry, hseen, hminted, hget⟩ :=
    sessions_storeAfter_self (e := e) (s := s) now (List.ne_nil_of_mem (mem_touched_iff.mpr hn))
  refine ⟨entry, hentry, fun n => ?_, fun n v hv => ?_, fun n v hv => ?_, hminted, hseen⟩
  · rw [hget, ← mem_touched_iff]
    by_cases hn : n ∈ e.touched r <;> simp [hn]
  · rw [hget, if_pos (mem_touched_iff.mpr hv.names), stateAfter_of_moves hv]
  · by_cases hmoves : ∃ v', e.Moves s r n v'
    · exact .inl hmoves
    rw [hget, stateAfter_of_not_moves hmoves] at hv
    by_cases hn : n ∈ e.touched r
    · rw [if_pos hn] at hv
      exact .inr (Option.some.inj hv).symm
    · rw [if_neg hn] at hv
      exact .inr (by simp [Store.effectiveState, hv])

/-! ## Matches without a move -/

theorem not_moves_of_unanswered (h : (e.matchIn now s r).1 = none) : ¬∃ v, e.Moves s r n v := by
  rintro ⟨v, i, m, rule, hbest, -⟩
  rw [matchIn_fst, Option.map_eq_none_iff, chosen?_eq_none_iff] at h
  exact h m (List.mem_of_getElem? hbest.registered) hbest.eligible

theorem not_moves_of_isBest {i : Nat} {m : StubMapping} (h : e.IsBest s r i m)
    (hm : ∀ rule, m.scenario = some rule → rule.newState = none) : ¬∃ v, e.Moves s r n v := by
  rintro ⟨v, j, m', rule, hbest, hs, -, hv⟩
  obtain ⟨-, rfl⟩ := h.unique hbest
  rw [hm rule hs] at hv
  cases hv

/-- A match that moves no scenario changes no state. -/
theorem effectiveState_storeAfter_of_not_moves (h : ∀ n, ¬∃ v, e.Moves s r n v) (n : String) :
    (e.storeAfter now s r).effectiveState t n = e.store.effectiveState t n := by
  rw [effectiveState_storeAfter]
  by_cases ht : t = s
  · rw [if_pos ht, stateAfter_of_not_moves (h n), ht]
  · rw [if_neg ht]

theorem matchIn_store : (e.matchIn now s r).2.store = e.storeAfter now s r := by
  rw [matchIn_eq]

variable (e s r)

/-- **The effect of a match on the store.** If no admitting mapping names a scenario, the store stays as it is.
Otherwise the session has an entry with the old scenarios and the named ones, each in its old state or the start state,
but for the scenario that the best mapping moves; the mark is the old one, and there is none on a new entry. No other
entry and no mapping changes, and without a move no state does. -/
theorem matchIn_store_effect :
    ((∀ n, ¬e.Names r n) → (e.matchIn now s r).2.store = e.store) ∧
      ((∃ n, e.Names r n) → ∃ entry, (e.matchIn now s r).2.store.sessions[s]? = some entry ∧
        (∀ n, (∃ v, entry.scenarios.get? n = some v) ↔ (∃ v, e.store.peek s n = some v) ∨ e.Names r n) ∧
        (∀ n v, e.Moves s r n v → entry.scenarios.get? n = some v) ∧
        (∀ n v, entry.scenarios.get? n = some v → (∃ v', e.Moves s r n v') ∨ v = e.store.effectiveState s n) ∧
        entry.minted = e.store.isMinted s ∧ entry.lastSeen = now) ∧
      (∀ t, t ≠ s → (e.matchIn now s r).2.store.sessions[t]? = e.store.sessions[t]?) ∧
      (e.matchIn now s r).2.registry = e.registry ∧
      ((e.matchIn now s r).1 = none ∨
          (∃ i m, e.IsBest s r i m ∧ ∀ rule, m.scenario = some rule → rule.newState = none) →
        ∀ t n, (e.matchIn now s r).2.store.effectiveState t n = e.store.effectiveState t n) := by
  rw [matchIn_store]
  refine ⟨fun h => storeAfter_of_no_names now (touched_eq_nil_iff.mpr h), exists_sessions_storeAfter now,
    fun t ht => sessions_storeAfter_of_ne now t ht, by rw [matchIn_eq], ?_⟩
  rintro (h | ⟨i, m, hbest, hm⟩) t n
  · exact effectiveState_storeAfter_of_not_moves now t (fun _ => not_moves_of_unanswered now h) n
  · exact effectiveState_storeAfter_of_not_moves now t (fun _ => not_moves_of_isBest hbest hm) n

end Engine
end ScenarioStubs
