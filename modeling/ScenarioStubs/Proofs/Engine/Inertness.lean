import ScenarioStubs.Engine.Admin
import ScenarioStubs.Proofs.Engine.Effect

/-!
# Mappings that are not chosen

A mapping `x` between the mappings `front` and `back` moves the places of those after it by one (`skip`), which keeps
every preference (`prefers_skip_iff`). So unless `x` is the best mapping itself, the best mapping is the same with it
and without it (`chosen?_insert`), and so are the answer and every state after it. If `x` does not admit the request,
even the store is the same (`storeAfter_insert_of_not_admits`). A mapping registered under a fresh identifier is the
case where nothing comes after it, and removing it undoes the registration (`removeStub_register`).
-/

namespace ScenarioStubs

/-! ## Places -/

/-- The place of a mapping after another was put in at place `k`. -/
def skip (k j : Nat) : Nat := if j < k then j else j + 1

theorem skip_inj {k i j : Nat} (h : skip k i = skip k j) : i = j := by
  unfold skip at h
  split at h <;> split at h <;> omega

theorem exists_skip {k i : Nat} (h : i ≠ k) : ∃ j, skip k j = i := by
  by_cases hlt : i < k
  · exact ⟨i, if_pos hlt⟩
  · refine ⟨i - 1, ?_⟩
    rw [skip, if_neg (by omega)]
    omega

theorem getElem?_skip {α : Type} (front : List α) (x : α) (back : List α) (j : Nat) :
    (front ++ x :: back)[skip front.length j]? = (front ++ back)[j]? := by
  unfold skip
  by_cases h : j < front.length
  · rw [if_pos h, List.getElem?_append_left h, List.getElem?_append_left h]
  · have hle : front.length ≤ j := Nat.le_of_not_lt h
    rw [if_neg h, List.getElem?_append_right (Nat.le_succ_of_le hle), List.getElem?_append_right hle,
      Nat.succ_sub hle, List.getElem?_cons_succ]

theorem prefers_skip_iff {p : SelectionPolicy} {k i j : Nat} {m m' : StubMapping} :
    p.Prefers (skip k i) m (skip k j) m' ↔ p.Prefers i m j m' := by
  have hplace : p.insertionOrder.Precedes (skip k i) (skip k j) ↔ p.insertionOrder.Precedes i j := by
    unfold skip InsertionOrder.Precedes
    cases p.insertionOrder <;> dsimp only <;> split <;> split <;> omega
  constructor
  · rintro (⟨on, h, h'⟩ | ⟨tie, h⟩ | ⟨tie, same, h⟩)
    · exact .state on h h'
    · exact .priority tie h
    · exact .place tie same (hplace.mp h)
  · rintro (⟨on, h, h'⟩ | ⟨tie, h⟩ | ⟨tie, same, h⟩)
    · exact .state on h h'
    · exact .priority tie h
    · exact .place tie same (hplace.mpr h)

namespace Engine

/-- The engine with other mappings. -/
def withMappings (e : Engine) (mappings : List StubMapping) : Engine := { e with registry := ⟨mappings⟩ }

variable {e : Engine} {front : List StubMapping} {x : StubMapping} {back : List StubMapping} {s : SessionId}
  {r : Request}

/-! ## The choice -/

/-- The best mapping among all, if it is not `x`, is the best without `x`. -/
theorem IsBest.of_insert {j : Nat} {m : StubMapping}
    (h : (e.withMappings (front ++ x :: back)).IsBest s r (skip front.length j) m) :
    (e.withMappings (front ++ back)).IsBest s r j m where
  registered := (getElem?_skip front x back j).symm.trans h.registered
  eligible := h.eligible
  preferred i m' hne hm' he' :=
    prefers_skip_iff.mp (h.preferred (skip front.length i) m' (fun heq => hne (skip_inj heq))
      ((getElem?_skip front x back i).trans hm') he')

/-- Unless `x` is the best mapping, the same mapping is chosen with it and without it. -/
theorem chosen?_insert (hx : ¬(e.withMappings (front ++ x :: back)).IsBest s r front.length x) :
    ((e.withMappings (front ++ x :: back)).chosen? s r).map (·.mapping) =
      ((e.withMappings (front ++ back)).chosen? s r).map (·.mapping) := by
  cases hc : (e.withMappings (front ++ x :: back)).chosen? s r with
  | none =>
    have hnone : (e.withMappings (front ++ back)).chosen? s r = none := by
      refine chosen?_eq_none_iff.mpr fun m hm => chosen?_eq_none_iff.mp hc m ?_
      show m ∈ front ++ x :: back
      rcases List.mem_append.mp hm with hm | hm
      · exact List.mem_append_left _ hm
      · exact List.mem_append_right _ (List.mem_cons_of_mem _ hm)
    rw [hnone]
  | some c =>
    obtain ⟨i, m⟩ := c
    have hbest := isBest_of_chosen? hc
    have hne : i ≠ front.length := by
      rintro rfl
      have hm : (front ++ x :: back)[front.length]? = some m := hbest.registered
      rw [List.getElem?_append_right (Nat.le_refl _), Nat.sub_self] at hm
      cases hm
      exact hx hbest
    obtain ⟨j, rfl⟩ := exists_skip hne
    rw [chosen?_eq_some_iff (c := ⟨j, m⟩) |>.mpr hbest.of_insert]
    rfl

/-- A match is determined by the chosen mapping, but for the place of it. -/
theorem move?_eq_bind (e : Engine) (s : SessionId) (r : Request) :
    e.move? s r = ((e.chosen? s r).map (·.mapping)).bind (·.move?) := by
  unfold move?
  cases e.chosen? s r <;> rfl

theorem move?_insert (hx : ¬(e.withMappings (front ++ x :: back)).IsBest s r front.length x) :
    (e.withMappings (front ++ x :: back)).move? s r = (e.withMappings (front ++ back)).move? s r := by
  rw [move?_eq_bind, move?_eq_bind, chosen?_insert hx]

theorem matchIn_fst_eq_map (e : Engine) (now : Instant) (s : SessionId) (r : Request) :
    (e.matchIn now s r).1 = ((e.chosen? s r).map (·.mapping)).map fun m => ⟨m.id, m.response⟩ := by
  rw [matchIn_fst]
  cases e.chosen? s r <;> rfl

/-! ## Names and counters -/

theorem candidates_map_mapping (registry : Registry) (r : Request) :
    (candidates registry r).map (·.mapping) = registry.mappings.filter (·.admits r) := by
  calc (candidates registry r).map (·.mapping)
      = (registry.mappings.zipIdx.filter ((·.admits r) ∘ Prod.fst)).map Prod.fst := List.map_map
    _ = (registry.mappings.zipIdx.map Prod.fst).filter (·.admits r) := List.filter_map.symm
    _ = registry.mappings.filter (·.admits r) := by rw [List.zipIdx_map_fst]

theorem touched_eq (e : Engine) (r : Request) :
    e.touched r = (e.registry.mappings.filter (·.admits r)).filterMap (·.scenarioName) := by
  rw [← candidates_map_mapping, List.filterMap_map]
  rfl

/-- A mapping that does not admit the request touches no scenario. -/
theorem touched_insert (hx : x.admits r = false) :
    (e.withMappings (front ++ x :: back)).touched r = (e.withMappings (front ++ back)).touched r := by
  rw [touched_eq, touched_eq]
  simp [withMappings, List.filter_append, hx]

/-- A mapping that does not admit the request is not the best. -/
theorem not_isBest_of_not_admits {i : Nat} (hx : x.admits r = false) : ¬e.IsBest s r i x := fun h => by
  rw [StubMapping.admits_iff.mpr h.eligible.1] at hx
  cases hx

theorem storeAfter_insert_of_not_admits (now : Instant) (hx : x.admits r = false) :
    (e.withMappings (front ++ x :: back)).storeAfter now s r = (e.withMappings (front ++ back)).storeAfter now s r := by
  unfold storeAfter
  rw [move?_insert (not_isBest_of_not_admits hx), touched_insert hx]
  rfl

/-- One mapping adds at most itself to the mappings without a verdict. -/
theorem malformedCount_insert : malformedCount ⟨front ++ x :: back⟩ r =
    malformedCount ⟨front ++ back⟩ r + if x.isMalformedFor r then 1 else 0 := by
  show (front ++ x :: back).countP (·.isMalformedFor r) = (front ++ back).countP (·.isMalformedFor r) + _
  rw [List.countP_append, List.countP_append, List.countP_cons]
  omega

/-- Unless `x` is the best mapping, it changes no counter but that of mappings without a verdict. -/
theorem statsAfter_insert (hx : ¬(e.withMappings (front ++ x :: back)).IsBest s r front.length x) :
    (e.withMappings (front ++ x :: back)).statsAfter s r =
      { (e.withMappings (front ++ back)).statsAfter s r with
        malformed := ((e.withMappings (front ++ back)).statsAfter s r).malformed +
          if x.isMalformedFor r then 1 else 0 } := by
  have hsome : ((e.withMappings (front ++ x :: back)).chosen? s r).isSome =
      ((e.withMappings (front ++ back)).chosen? s r).isSome := by
    rw [← Option.isSome_map, chosen?_insert hx, Option.isSome_map]
  unfold statsAfter
  rw [hsome, move?_insert hx]
  simp only [withMappings, malformedCount_insert, Nat.add_assoc]

/-! ## Outcomes -/

/-- Two matches agree in their answers and in every state after them. -/
structure SameOutcome (a b : Option ServedStub × Engine) : Prop where
  answer : a.1 = b.1
  states : ∀ t n, a.2.store.effectiveState t n = b.2.store.effectiveState t n

theorem effectiveState_insert (now : Instant)
    (hx : ¬(e.withMappings (front ++ x :: back)).IsBest s r front.length x) (t : SessionId) (n : String) :
    ((e.withMappings (front ++ x :: back)).storeAfter now s r).effectiveState t n =
      ((e.withMappings (front ++ back)).storeAfter now s r).effectiveState t n := by
  rw [effectiveState_storeAfter, effectiveState_storeAfter]
  unfold stateAfter
  rw [move?_insert hx]
  rfl

theorem sameOutcome_insert (now : Instant)
    (hx : ¬(e.withMappings (front ++ x :: back)).IsBest s r front.length x) :
    SameOutcome ((e.withMappings (front ++ x :: back)).matchIn now s r)
      ((e.withMappings (front ++ back)).matchIn now s r) where
  answer := by rw [matchIn_fst_eq_map, matchIn_fst_eq_map, chosen?_insert hx]
  states t n := by rw [matchIn_store, matchIn_store, effectiveState_insert now hx]

/-- The best mapping answers. -/
theorem IsBest.matchIn_fst {i : Nat} {m : StubMapping} (h : e.IsBest s r i m) (now : Instant) :
    (e.matchIn now s r).1 = some ⟨m.id, m.response⟩ := by
  rw [Engine.matchIn_fst, chosen?_eq_some_iff (c := ⟨i, m⟩) |>.mpr h]
  rfl

/-- Either the mapping `x` answers, or the outcome is the one without it. -/
theorem isBest_or_sameOutcome (e : Engine) (front : List StubMapping) (x : StubMapping) (back : List StubMapping)
    (now : Instant) (s : SessionId) (r : Request) :
    (e.withMappings (front ++ x :: back)).IsBest s r front.length x ∧
        ((e.withMappings (front ++ x :: back)).matchIn now s r).1 = some ⟨x.id, x.response⟩ ∨
      SameOutcome ((e.withMappings (front ++ x :: back)).matchIn now s r)
        ((e.withMappings (front ++ back)).matchIn now s r) := by
  by_cases hx : (e.withMappings (front ++ x :: back)).IsBest s r front.length x
  · exact .inl ⟨hx, hx.matchIn_fst now⟩
  · exact .inr (sameOutcome_insert now hx)

/-! ## Registration -/

theorem register_of_fresh (h : e.registry.contains x.id = false) :
    e.register x = e.withMappings (e.registry.mappings ++ [x]) := by
  simp [register, Registry.add, h, withMappings]

/-- Removing a mapping with an identifier of its own leaves the others in their order. -/
theorem removeStub_withMappings (h : ∀ m ∈ front, m.id ≠ x.id) :
    (e.withMappings (front ++ x :: back)).removeStub x.id = .ok (x, e.withMappings (front ++ back)) := by
  have hnone : ∀ m ∈ front, ¬(m.id == x.id) = true := fun m hm => by simpa using h m hm
  have hfind : (front ++ x :: back).find? (·.id == x.id) = some x := by
    rw [List.find?_append, List.find?_eq_none.mpr hnone]
    simp
  have herase : (front ++ x :: back).eraseP (·.id == x.id) = front ++ back := by
    rw [List.eraseP_append_right _ hnone]
    simp
  simp [removeStub, Registry.remove, Registry.get?, withMappings, hfind, herase]

theorem removeStub_register (h : e.registry.contains x.id = false) : (e.register x).removeStub x.id = .ok (x, e) := by
  have hfront : ∀ m ∈ e.registry.mappings, m.id ≠ x.id := by simpa [Registry.contains] using h
  have hremove : (e.withMappings (e.registry.mappings ++ [x])).removeStub x.id =
      .ok (x, e.withMappings (e.registry.mappings ++ [])) := removeStub_withMappings hfront
  rw [List.append_nil] at hremove
  rw [register_of_fresh h]
  exact hremove

theorem matchIn_insert_of_error {cause : EvaluationError} (now : Instant) (hx : x.predicate.evaluate r = .error cause) :
    (e.withMappings (front ++ x :: back)).matchIn now s r =
      (((e.withMappings (front ++ back)).matchIn now s r).1,
        { ((e.withMappings (front ++ back)).matchIn now s r).2 with
          registry := ⟨front ++ x :: back⟩
          stats := { ((e.withMappings (front ++ back)).matchIn now s r).2.stats with
            malformed := ((e.withMappings (front ++ back)).matchIn now s r).2.stats.malformed + 1 } }) := by
  have hadmits : x.admits r = false := by simp [StubMapping.admits, hx]
  have hbest := not_isBest_of_not_admits (e := e.withMappings (front ++ x :: back)) (s := s) (i := front.length) hadmits
  have hanswer := (sameOutcome_insert now hbest).answer
  have hmalformed : x.isMalformedFor r = true := by simp [StubMapping.isMalformedFor, hx]
  refine Prod.ext hanswer ?_
  rw [matchIn_eq, matchIn_eq, storeAfter_insert_of_not_admits now hadmits, statsAfter_insert hbest, if_pos hmalformed]
  rfl

/-- **A mapping that is not chosen is inert.** With a mapping `x` anywhere among the others, either `x` answers the
request, or the answer and every state after it are those without `x`; if the predicate of `x` gives no verdict, the
counter of such mappings is all that differs. So a mapping registered under a fresh identifier changes no answer but to
its own, and removing it gives back the engine as it was. -/
theorem unselected_mapping_inert (e : Engine) (front : List StubMapping) (x : StubMapping) (back : List StubMapping)
    (now : Instant) (s : SessionId) (r : Request) :
    ((e.withMappings (front ++ x :: back)).IsBest s r front.length x ∧
          ((e.withMappings (front ++ x :: back)).matchIn now s r).1 = some ⟨x.id, x.response⟩ ∨
        SameOutcome ((e.withMappings (front ++ x :: back)).matchIn now s r)
          ((e.withMappings (front ++ back)).matchIn now s r)) ∧
      (∀ cause, x.predicate.evaluate r = .error cause →
        (e.withMappings (front ++ x :: back)).matchIn now s r =
          (((e.withMappings (front ++ back)).matchIn now s r).1,
            { ((e.withMappings (front ++ back)).matchIn now s r).2 with
              registry := ⟨front ++ x :: back⟩
              stats := { ((e.withMappings (front ++ back)).matchIn now s r).2.stats with
                malformed := ((e.withMappings (front ++ back)).matchIn now s r).2.stats.malformed + 1 } })) ∧
      (e.registry.contains x.id = false →
        (((e.register x).matchIn now s r).1 = some ⟨x.id, x.response⟩ ∨
          SameOutcome ((e.register x).matchIn now s r) (e.matchIn now s r)) ∧
        (e.register x).removeStub x.id = .ok (x, e)) := by
  refine ⟨isBest_or_sameOutcome e front x back now s r, fun cause hx => matchIn_insert_of_error now hx, fun h => ?_⟩
  have hinert := isBest_or_sameOutcome e e.registry.mappings x [] now s r
  rw [List.append_nil, ← register_of_fresh h] at hinert
  exact ⟨hinert.imp_left And.right, removeStub_register h⟩

end Engine

end ScenarioStubs
