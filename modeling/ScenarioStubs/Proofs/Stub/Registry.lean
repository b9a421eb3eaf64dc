import Mathlib.Data.List.Induction
import ScenarioStubs.Proofs.SortedMap
import ScenarioStubs.Stub.Registry

/-!
# What registry operations do

The identifiers of the registered mappings in order (`Registry.ids`), and the mapping under each of them, after each
operation:

- storing a mapping under an identifier that is present leaves the identifiers as they are, else its identifier comes
  last (`ids_add`, `ids_replace`); it is then found under that identifier (`get?_add`, `get?_replace`);
- removing takes one identifier out and leaves the others in order (`ids_remove`, `get?_remove`);
- storing and removing leave the mappings under other identifiers as they are, and in their order (`others_add`,
  `others_remove`);
- no mapping gets in but the one that is stored (`mem_add`, `mem_replace`, `mem_remove`).

The possible states of a scenario are those that its mappings mention, and the start state (`mem_possibleStates`); with
more mappings there are more of them (`possibleStates_mono`). Going through the rules once collects them for every
scenario (`scenarios_eq`).
-/

namespace ScenarioStubs
namespace Registry

variable {r : Registry} {id j : StubId} {m : StubMapping}

/-- The registered identifiers, in order. -/
def ids (r : Registry) : List StubId := r.mappings.map (·.id)

/-- The mappings under other identifiers than a given one, in order. -/
def others (r : Registry) (id : StubId) : List StubMapping := r.mappings.filter (·.id != id)

theorem contains_iff : r.contains id = true ↔ id ∈ r.ids := by
  simp [contains, ids]

theorem size_eq : r.size = r.ids.length := by
  simp [size, ids]

theorem get?_eq_none_iff : r.get? id = none ↔ id ∉ r.ids := by
  simp [get?, ids]

@[simp] theorem ids_empty : empty.ids = [] := rfl

@[simp] theorem get?_empty : empty.get? id = none := rfl

/-! ## Storing in place -/

theorem map_id_replaceFirst (hm : m.id = id) : ∀ l : List StubMapping,
    (replaceFirst id m l).map (·.id) = l.map (·.id)
  | [] => rfl
  | m' :: rest => by
    unfold replaceFirst
    split
    case isTrue h =>
      rw [beq_iff_eq] at h
      rw [List.map_cons, List.map_cons, hm, h]
    case isFalse => rw [List.map_cons, List.map_cons, map_id_replaceFirst hm rest]

theorem find?_replaceFirst (hm : m.id = id) : ∀ {l : List StubMapping}, id ∈ l.map (·.id) →
    (replaceFirst id m l).find? (·.id == j) = if j = id then some m else l.find? (·.id == j)
  | [], h => by cases h
  | m' :: rest, h => by
    unfold replaceFirst
    by_cases hfirst : m'.id = id
    · -- The replaced mapping had the same identifier, so no other is looked up there.
      by_cases hj : j = id
      · simp [hfirst, hj, hm]
      · simp [hfirst, hj, hm, Ne.symm hj]
    · have hrest : id ∈ rest.map (·.id) := by
        rcases List.mem_cons.mp h with h | h
        · exact absurd h.symm hfirst
        · exact h
      have ih := find?_replaceFirst hm hrest
      by_cases hj : m'.id = j
      · have hne : j ≠ id := fun heq => hfirst (hj.trans heq)
        simp [hj, hne]
      · simp [hfirst, hj, ih]

theorem filter_replaceFirst (hm : m.id = id) : ∀ l : List StubMapping,
    (replaceFirst id m l).filter (·.id != id) = l.filter (·.id != id)
  | [] => rfl
  | m' :: rest => by
    unfold replaceFirst
    split
    case isTrue h =>
      rw [beq_iff_eq] at h
      simp [hm, h]
    case isFalse => rw [List.filter_cons, List.filter_cons, filter_replaceFirst hm rest]

/-! ## Adding -/

theorem ids_add (r : Registry) (m : StubMapping) :
    (r.add m).ids = if m.id ∈ r.ids then r.ids else r.ids ++ [m.id] := by
  unfold add
  by_cases h : m.id ∈ r.ids
  · rw [if_pos (contains_iff.mpr h), if_pos h]
    exact map_id_replaceFirst rfl r.mappings
  · rw [if_neg (fun hc => h (contains_iff.mp hc)), if_neg h]
    simp [ids]

theorem nodup_ids_add (h : r.ids.Nodup) (m : StubMapping) : (r.add m).ids.Nodup := by
  rw [ids_add]
  split
  case isTrue => exact h
  case isFalse hm =>
    refine List.nodup_append.mpr ⟨h, by simp, fun id hid id' hid' heq => hm ?_⟩
    rw [← List.mem_singleton.mp hid', ← heq]
    exact hid

theorem get?_add (r : Registry) (m : StubMapping) (j : StubId) :
    (r.add m).get? j = if j = m.id then some m else r.get? j := by
  unfold add
  by_cases h : m.id ∈ r.ids
  · rw [if_pos (contains_iff.mpr h)]
    exact find?_replaceFirst rfl h
  · rw [if_neg (fun hc => h (contains_iff.mp hc))]
    by_cases hj : j = m.id
    · have hnone : r.mappings.find? (·.id == m.id) = none := get?_eq_none_iff.mpr h
      simp [get?, hj, hnone]
    · simp [get?, hj, Ne.symm hj]

theorem others_add (r : Registry) (m : StubMapping) : (r.add m).others m.id = r.others m.id := by
  unfold add
  split
  · exact filter_replaceFirst rfl r.mappings
  · simp [others]

/-! ## Replacing -/

theorem replace_of_mem (h : id ∈ r.ids) (m : StubMapping) :
    r.replace id m = .ok ⟨replaceFirst id (m.withId id) r.mappings⟩ := if_pos (contains_iff.mpr h)

theorem replace_of_not_mem (h : id ∉ r.ids) (m : StubMapping) : r.replace id m = .error (.notFound id) :=
  if_neg fun hc => h (contains_iff.mp hc)

/-- A replaced mapping stands where the old one stood, and under the identifier of the old one. -/
theorem ids_replace {r' : Registry} (h : r.replace id m = .ok r') : r'.ids = r.ids := by
  by_cases hid : id ∈ r.ids
  · rw [replace_of_mem hid] at h
    cases h
    exact map_id_replaceFirst (m := m.withId id) rfl r.mappings
  · rw [replace_of_not_mem hid] at h
    cases h

theorem get?_replace {r' : Registry} (h : r.replace id m = .ok r') (j : StubId) :
    r'.get? j = if j = id then some (m.withId id) else r.get? j := by
  by_cases hid : id ∈ r.ids
  · rw [replace_of_mem hid] at h
    cases h
    exact find?_replaceFirst (m := m.withId id) rfl hid
  · rw [replace_of_not_mem hid] at h
    cases h

/-! ## Removing -/

theorem remove_of_not_mem (h : id ∉ r.ids) : r.remove id = (none, r) := by
  have hall : ∀ m ∈ r.mappings, ¬(m.id == id) = true := fun m hm => by
    rw [beq_iff_eq]
    exact fun heq => h (heq ▸ List.mem_map_of_mem hm)
  unfold remove
  rw [get?_eq_none_iff.mpr h, List.eraseP_of_forall_not hall]

theorem ids_remove (r : Registry) (id : StubId) : (r.remove id).2.ids = r.ids.erase id := by
  unfold remove ids
  dsimp only
  rw [List.erase_eq_eraseP', List.eraseP_map]
  rfl

theorem nodup_ids_remove (h : r.ids.Nodup) (id : StubId) : (r.remove id).2.ids.Nodup := ids_remove r id ▸ h.erase id

theorem get?_remove_of_ne (r : Registry) {id j : StubId} (h : j ≠ id) : (r.remove id).2.get? j = r.get? j := by
  unfold remove get?
  dsimp only
  induction r.mappings with
  | nil => rfl
  | cons m rest ih =>
    by_cases hm : m.id = id
    · simp [hm, Ne.symm h]
    · by_cases hj : m.id = j
      · simp [hj, h]
      · simp [hm, hj, ih]

/-- No second mapping is left under the removed identifier if there was none. -/
theorem get?_remove (hnodup : r.ids.Nodup) (id j : StubId) :
    (r.remove id).2.get? j = if j = id then none else r.get? j := by
  by_cases hj : j = id
  · rw [if_pos hj, get?_eq_none_iff, ids_remove, hj]
    exact hnodup.not_mem_erase
  · rw [if_neg hj, get?_remove_of_ne r hj]

theorem others_remove (r : Registry) (id : StubId) : (r.remove id).2.others id = r.others id := by
  unfold remove others
  dsimp only
  induction r.mappings with
  | nil => rfl
  | cons m rest ih =>
    by_cases hm : m.id = id
    · simp [hm]
    · simp [hm, ih]

/-! ## Members -/

theorem mem_replaceFirst {x : StubMapping} : ∀ {l : List StubMapping}, x ∈ replaceFirst id m l → x = m ∨ x ∈ l
  | [], h => by cases h
  | m' :: rest, h => by
    unfold replaceFirst at h
    split at h
    case isTrue =>
      rcases List.mem_cons.mp h with h | h
      · exact .inl h
      · exact .inr (List.mem_cons_of_mem m' h)
    case isFalse =>
      rcases List.mem_cons.mp h with h | h
      · exact .inr (h ▸ List.mem_cons_self)
      · exact (mem_replaceFirst h).imp_right (List.mem_cons_of_mem m')

theorem mem_add {x : StubMapping} (h : x ∈ (r.add m).mappings) : x = m ∨ x ∈ r.mappings := by
  unfold add at h
  split at h
  case isTrue => exact mem_replaceFirst h
  case isFalse =>
    rcases List.mem_append.mp h with h | h
    · exact .inr h
    · exact .inl (List.mem_singleton.mp h)

theorem mem_replace {r' : Registry} {x : StubMapping} (h : r.replace id m = .ok r') (hx : x ∈ r'.mappings) :
    x = m.withId id ∨ x ∈ r.mappings := by
  by_cases hid : id ∈ r.ids
  · rw [replace_of_mem hid] at h
    cases h
    exact mem_replaceFirst hx
  · rw [replace_of_not_mem hid] at h
    cases h

theorem mem_remove {x : StubMapping} (h : x ∈ (r.remove id).2.mappings) : x ∈ r.mappings := List.mem_of_mem_eraseP h

/-- A mapping under a new identifier comes behind all others. -/
theorem add_of_not_mem (h : m.id ∉ r.ids) : r.add m = ⟨r.mappings ++ [m]⟩ := if_neg fun hc => h (contains_iff.mp hc)

theorem mappings_subset_add (h : m.id ∉ r.ids) : r.mappings ⊆ (r.add m).mappings := by
  rw [add_of_not_mem h]
  exact List.subset_append_left r.mappings [m]

/-! ## Scenarios -/

theorem mem_scenarioNames {n : String} : n ∈ r.scenarioNames ↔ r.knowsScenario n = true := by
  unfold scenarioNames rules knowsScenario
  rw [mem_sortedSet, List.mem_map, List.any_eq_true]
  constructor
  · rintro ⟨rule, hrule, rfl⟩
    obtain ⟨m, hm, hscenario⟩ := List.mem_filterMap.mp hrule
    exact ⟨m, hm, by simp [StubMapping.scenarioName, hscenario]⟩
  · rintro ⟨m, hm, hname⟩
    obtain ⟨rule, hscenario, rfl⟩ := Option.map_eq_some_iff.mp (beq_iff_eq.mp hname)
    exact ⟨rule, List.mem_filterMap.mpr ⟨m, hm, hscenario⟩, rfl⟩

theorem nodup_scenarioNames (r : Registry) : r.scenarioNames.Nodup := nodup_sortedSet _

theorem pairwise_scenarioNames (r : Registry) : r.scenarioNames.Pairwise (· < ·) := pairwise_sortedSet _

variable {r' : Registry} {rule : ScenarioRule} {n v : String}

theorem knowsScenario_of_mem (hm : m ∈ r.mappings) (hrule : m.scenario = some rule) :
    r.knowsScenario rule.name = true := by
  unfold knowsScenario
  rw [List.any_eq_true]
  exact ⟨m, hm, by simp [StubMapping.scenarioName, hrule]⟩

theorem mem_possibleStates : v ∈ r.possibleStates n ↔ v = startState ∨
    ∃ m ∈ r.mappings, ∃ rule, m.scenario = some rule ∧ rule.name = n ∧
      (rule.requiredState = some v ∨ rule.newState = some v) := by
  unfold possibleStates rules
  rw [mem_sortedSet, List.mem_cons, List.mem_flatMap]
  simp only [List.mem_filter, List.mem_filterMap, List.mem_append, Option.mem_toList, beq_iff_eq]
  constructor
  · rintro (hstart | ⟨rule, ⟨⟨m, hm, hrule⟩, hname⟩, hstate⟩)
    · exact .inl hstart
    · exact .inr ⟨m, hm, rule, hrule, hname, hstate⟩
  · rintro (hstart | ⟨m, hm, rule, hrule, hname, hstate⟩)
    · exact .inl hstart
    · exact .inr ⟨rule, ⟨⟨m, hm, hrule⟩, hname⟩, hstate⟩

theorem pairwise_possibleStates (r : Registry) (n : String) : (r.possibleStates n).Pairwise (· < ·) :=
  pairwise_sortedSet _

theorem startState_mem_possibleStates (r : Registry) (n : String) : startState ∈ r.possibleStates n :=
  mem_possibleStates.mpr (.inl rfl)

theorem knowsScenario_mono (h : r.mappings ⊆ r'.mappings) (hknown : r.knowsScenario n = true) :
    r'.knowsScenario n = true := by
  unfold knowsScenario at *
  rw [List.any_eq_true] at *
  obtain ⟨m, hm, hname⟩ := hknown
  exact ⟨m, h hm, hname⟩

/-- More mappings declare more states. -/
theorem possibleStates_mono (h : r.mappings ⊆ r'.mappings) (hv : v ∈ r.possibleStates n) :
    v ∈ r'.possibleStates n := by
  rw [mem_possibleStates] at *
  rcases hv with hstart | ⟨m, hm, hrule⟩
  · exact .inl hstart
  · exact .inr ⟨m, h hm, hrule⟩

/-! ## All scenarios at once -/

/-- The possible states of a scenario by a list of rules, as a set. -/
def statesBy (rules : List ScenarioRule) (n : String) : SortedMap String Unit :=
  SortedMap.empty.addAll <| startState :: (rules.filter (·.name == n)).flatMap fun rule =>
    rule.requiredState.toList ++ rule.newState.toList

theorem statesBy_concat_self (rules : List ScenarioRule) (rule : ScenarioRule) :
    statesBy (rules ++ [rule]) rule.name =
      (statesBy rules rule.name).addAll (rule.requiredState.toList ++ rule.newState.toList) := by
  have hone : [rule].filter (·.name == rule.name) = [rule] := by simp
  unfold statesBy SortedMap.addAll
  rw [List.filter_append, hone, List.flatMap_append, List.flatMap_singleton, ← List.cons_append, List.foldl_append]

theorem statesBy_concat_of_ne {rules : List ScenarioRule} (h : n ≠ rule.name) :
    statesBy (rules ++ [rule]) n = statesBy rules n := by
  have hnone : [rule].filter (·.name == n) = [] := by simp [Ne.symm h]
  unfold statesBy
  rw [List.filter_append, hnone, List.append_nil]

theorem statesBy_of_not_mem {rules : List ScenarioRule} (h : n ∉ rules.map (·.name)) :
    statesBy rules n = SortedMap.empty.addAll [startState] := by
  have hnone : rules.filter (·.name == n) = [] := by
    rw [List.filter_eq_nil_iff]
    intro rule hrule hname
    exact h (List.mem_map.mpr ⟨rule, hrule, beq_iff_eq.mp hname⟩)
  unfold statesBy
  rw [hnone, List.flatMap_nil]

/-- After some rules, the scenarios that they name have come up, each with its possible states. -/
theorem get?_foldl_mention (rules : List ScenarioRule) (n : String) :
    (rules.foldl mention .empty).get? n = if n ∈ rules.map (·.name) then some (statesBy rules n) else none := by
  -- A rule adds to what those before it have mentioned, so the last rule is taken off.
  induction rules using List.reverseRecOn with
  | nil => rfl
  | append_singleton rules rule ih =>
    have hmem : n ∈ (rules ++ [rule]).map (·.name) ↔ n ∈ rules.map (·.name) ∨ n = rule.name := by
      rw [List.map_append, List.mem_append, List.map_singleton, List.mem_singleton]
    rw [List.foldl_append, List.foldl_cons, List.foldl_nil, mention, SortedMap.get?_insert]
    by_cases hn : n = rule.name
    · subst hn
      rw [if_pos rfl, if_pos (hmem.mpr (.inr rfl)), statesBy_concat_self, ih]
      by_cases hknown : rule.name ∈ rules.map (·.name)
      · rw [if_pos hknown, Option.getD_some]
      · rw [if_neg hknown, Option.getD_none, statesBy_of_not_mem hknown]
    · rw [if_neg hn, ih, statesBy_concat_of_ne hn]
      exact if_congr (by rw [hmem, or_iff_left hn]) rfl rfl

/-- Going through the rules once finds the scenarios that are named, each with its possible states. -/
theorem scenarios_eq (r : Registry) : r.scenarios = r.scenarioNames.map fun n => (n, r.possibleStates n) := by
  have hmap : r.rules.foldl mention .empty =
      (SortedMap.empty.addAll (r.rules.map (·.name))).mapValues fun n _ => statesBy r.rules n := by
    refine SortedMap.eq_of_get?_eq fun n => ?_
    have hset : (SortedMap.empty.addAll (r.rules.map (·.name))).get? n =
        if n ∈ r.rules.map (·.name) then some () else none := SortedMap.get?_addAll_empty n _
    rw [get?_foldl_mention, SortedMap.get?_mapValues, hset]
    split <;> rfl
  have hlist : (SortedMap.empty.addAll (r.rules.map (·.name))).keys = r.scenarioNames := rfl
  unfold scenarios
  rw [hmap, ← hlist]
  unfold SortedMap.mapValues SortedMap.toList SortedMap.keys
  rw [List.map_map, List.map_map]
  rfl

end Registry
end ScenarioStubs
