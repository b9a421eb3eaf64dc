import ScenarioStubs.Proofs.Engine.Matching

/-!
# Who answers a request

A registered mapping is eligible for a request in a session if its predicate admits the request and the scenario it is
bound to is in the state that it requires (`StubMapping.Eligible`). The best mapping is the eligible one that is
preferred to every other (`Engine.IsBest`); there is at most one (`IsBest.unique`). The candidate that a match chooses
is the best mapping at its place (`chosen?_eq_some_iff`), so a request is answered by the best mapping, and by none
exactly if none is eligible (`matchIn_answers_best`).
-/

namespace ScenarioStubs

/-- Whether a mapping may answer a request in a session: its predicate admits the request, and if it requires a state,
its scenario is in that state. -/
def StubMapping.Eligible (m : StubMapping) (st : Store) (s : SessionId) (r : Request) : Prop :=
  m.predicate.evaluate r = .ok true ∧ ∀ rule, m.scenario = some rule → ∀ required, rule.requiredState = some required →
    st.effectiveState s rule.name = required

theorem StubMapping.gateHolds_iff {m : StubMapping} {st : Store} {s : SessionId} : m.gateHolds st s = true ↔
    ∀ rule, m.scenario = some rule → ∀ required, rule.requiredState = some required →
      st.effectiveState s rule.name = required := by
  unfold gateHolds
  cases hs : m.scenario with
  | none => simp
  | some rule => cases hr : rule.requiredState <;> simp [hr]

namespace Engine

variable {e : Engine} {s : SessionId} {r : Request} {i j : Nat} {m m' : StubMapping}

/-- The mapping `m` at place `i` is eligible and preferred to every other eligible mapping. -/
structure IsBest (e : Engine) (s : SessionId) (r : Request) (i : Nat) (m : StubMapping) : Prop where
  registered : e.registry.mappings[i]? = some m
  eligible : m.Eligible e.store s r
  preferred : ∀ j m', j ≠ i → e.registry.mappings[j]? = some m' → m'.Eligible e.store s r →
    e.config.selection.Prefers i m j m'

/-- No two places hold the best mapping. -/
theorem IsBest.unique (h : e.IsBest s r i m) (h' : e.IsBest s r j m') : i = j ∧ m = m' := by
  have hij : i = j := Decidable.byContradiction fun hne =>
    (h.preferred j m' (Ne.symm hne) h'.registered h'.eligible).asymm
      (h'.preferred i m hne h.registered h.eligible)
  subst hij
  exact ⟨rfl, Option.some.inj (h.registered.symm.trans h'.registered)⟩

/-! ## Candidates -/

/-- The candidates are the mappings that admit the request, with their places. -/
theorem mem_candidates_iff {c : Candidate} : c ∈ candidates e.registry r ↔
    e.registry.mappings[c.rank]? = some c.mapping ∧ c.mapping.predicate.evaluate r = .ok true := by
  unfold candidates
  constructor
  · intro h
    obtain ⟨⟨m, k⟩, hm, rfl⟩ := List.mem_map.mp h
    obtain ⟨hm, hp⟩ := List.mem_filter.mp hm
    exact ⟨List.mem_zipIdx_iff_getElem?.mp hm, StubMapping.admits_iff.mp hp⟩
  · rintro ⟨hm, hp⟩
    exact List.mem_map.mpr ⟨(c.mapping, c.rank),
      List.mem_filter.mpr ⟨List.mem_zipIdx_iff_getElem?.mpr hm, StubMapping.admits_iff.mpr hp⟩, rfl⟩

/-- Every place is below the number of mappings, so that no place is lost when they are counted from the end. -/
theorem rank_lt_size {c : Candidate} (h : c ∈ candidates e.registry r) : c.rank < e.registry.size :=
  (List.getElem?_eq_some_iff.mp (mem_candidates_iff.mp h).1).1

/-- The open candidates are the eligible mappings, with their places. -/
theorem mem_openCandidates_iff {c : Candidate} : c ∈ e.openCandidates s r ↔
    e.registry.mappings[c.rank]? = some c.mapping ∧ c.mapping.Eligible e.store s r := by
  unfold openCandidates StubMapping.Eligible
  rw [List.mem_filter, mem_candidates_iff, StubMapping.gateHolds_iff, and_assoc]

theorem rank_lt_size_of_open {c : Candidate} (h : c ∈ e.openCandidates s r) : c.rank < e.registry.size :=
  rank_lt_size (List.mem_filter.mp h).1

/-! ## The choice -/

theorem chosen?_eq_none_iff :
    e.chosen? s r = none ↔ ∀ m ∈ e.registry.mappings, ¬m.Eligible e.store s r := by
  unfold chosen?
  rw [SelectionPolicy.best?_eq_none_iff, List.eq_nil_iff_forall_not_mem]
  constructor
  · intro h m hm he
    obtain ⟨i, hi⟩ := List.mem_iff_getElem?.mp hm
    exact h ⟨i, m⟩ (mem_openCandidates_iff.mpr ⟨hi, he⟩)
  · intro h c hc
    obtain ⟨hm, he⟩ := mem_openCandidates_iff.mp hc
    exact h c.mapping (List.mem_of_getElem? hm) he

/-- A chosen candidate is the best mapping, at its place. -/
theorem isBest_of_chosen? {c : Candidate} (h : e.chosen? s r = some c) : e.IsBest s r c.rank c.mapping := by
  obtain ⟨hm, he⟩ := mem_openCandidates_iff.mp (mem_openCandidates_of_chosen? h)
  refine ⟨hm, he, fun j m' hne hm' he' => ?_⟩
  have hopen : ⟨j, m'⟩ ∈ e.openCandidates s r := mem_openCandidates_iff.mpr ⟨hm', he'⟩
  exact SelectionPolicy.prefers_of_best? (fun _ => rank_lt_size_of_open) h hopen hne.symm

/-- The candidate that is chosen is the best mapping: there is one if any mapping is eligible, and only one. -/
theorem chosen?_eq_some_iff {c : Candidate} : e.chosen? s r = some c ↔ e.IsBest s r c.rank c.mapping := by
  refine ⟨isBest_of_chosen?, fun h => ?_⟩
  cases hc : e.chosen? s r with
  | none => exact absurd h.eligible (chosen?_eq_none_iff.mp hc _ (List.mem_of_getElem? h.registered))
  | some d =>
    obtain ⟨hrank, hmapping⟩ := (isBest_of_chosen? hc).unique h
    obtain ⟨i, m⟩ := c
    obtain ⟨j, m'⟩ := d
    cases hrank
    cases hmapping
    rfl

theorem matchIn_fst (e : Engine) (now : Instant) (s : SessionId) (r : Request) :
    (e.matchIn now s r).1 = (e.chosen? s r).map fun c => ⟨c.mapping.id, c.mapping.response⟩ := by
  rw [matchIn_eq]

/-- The stub that answers a request is that of the best mapping. -/
theorem matchIn_fst_eq_some_iff {now : Instant} {stub : ServedStub} : (e.matchIn now s r).1 = some stub ↔
    ∃ i m, e.IsBest s r i m ∧ stub = ⟨m.id, m.response⟩ := by
  rw [matchIn_fst, Option.map_eq_some_iff]
  constructor
  · rintro ⟨c, hc, rfl⟩
    exact ⟨c.rank, c.mapping, isBest_of_chosen? hc, rfl⟩
  · rintro ⟨i, m, hbest, rfl⟩
    exact ⟨⟨i, m⟩, chosen?_eq_some_iff.mpr hbest, rfl⟩

/-- **The best eligible mapping answers.** A request goes unanswered exactly if no mapping is eligible; otherwise the
answer is the identifier and the response of the one mapping that is preferred to all other eligible ones. Counting
places from the end never goes below zero. -/
theorem matchIn_answers_best (e : Engine) (now : Instant) (s : SessionId) (r : Request) :
    ((e.matchIn now s r).1 = none ↔ ∀ m ∈ e.registry.mappings, ¬m.Eligible e.store s r) ∧
      (∀ stub, (e.matchIn now s r).1 = some stub ↔ ∃ i m, e.IsBest s r i m ∧ stub = ⟨m.id, m.response⟩) ∧
      (∀ i m j m', e.IsBest s r i m → e.IsBest s r j m' → i = j ∧ m = m') ∧
      ∀ c ∈ candidates e.registry r, c.rank < e.registry.size := by
  rw [matchIn_fst]
  refine ⟨?_, fun stub => ?_, fun _ _ _ _ h h' => h.unique h', fun _ h => rank_lt_size h⟩
  · rw [Option.map_eq_none_iff, chosen?_eq_none_iff]
  · rw [Option.map_eq_some_iff]
    constructor
    · rintro ⟨c, hc, rfl⟩
      exact ⟨c.rank, c.mapping, isBest_of_chosen? hc, rfl⟩
    · rintro ⟨i, m, hbest, rfl⟩
      exact ⟨⟨i, m⟩, chosen?_eq_some_iff.mpr hbest, rfl⟩

end Engine

end ScenarioStubs
