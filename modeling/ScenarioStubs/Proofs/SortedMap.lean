import ScenarioStubs.SortedMap

/-!
# Lookup in sorted maps

- what `get?` finds after each operation on a map (`get?_insert`, `get?_insertNew`, `get?_erase`, `get?_ofList_map`);
- the entries of a map are its lookups (`mem_toList`), and a map is determined by them (`eq_of_get?_eq`), so it is the
  map of its entries (`ofList_toList`);
- no key occurs twice (`nodup_keys`), and the distinct members of a list are its members (`mem_sortedSet`), ascending
  (`pairwise_sortedSet`).
-/

namespace ScenarioStubs
namespace SortedMap

variable {κ α : Type} [Ord κ]

/-! ## Lists of entries -/

@[simp] theorem lookup_nil (k : κ) : lookup k ([] : List (κ × α)) = none := rfl

theorem eq_empty_of_isEmpty {m : SortedMap κ α} (h : m.isEmpty = true) : m = ∅ := ext (List.isEmpty_iff.mp h)

@[simp] theorem get?_empty (k : κ) : (∅ : SortedMap κ α).get? k = none := rfl

theorem ascending_filterMap {β : Type} (f : κ → α → Option β) {l : List (κ × α)} (h : Ascending l) :
    Ascending (l.filterMap fun e => (f e.1 e.2).map (e.1, ·)) := by
  unfold Ascending
  rw [List.pairwise_filterMap]
  refine h.imp fun {a b} hlt a' ha b' hb => ?_
  obtain ⟨_, -, rfl⟩ := Option.map_eq_some_iff.mp ha
  obtain ⟨_, -, rfl⟩ := Option.map_eq_some_iff.mp hb
  exact hlt

theorem pairwise_keys (m : SortedMap κ α) : m.keys.Pairwise fun j k => compare j k = .lt :=
  List.pairwise_map.mpr m.ascending

variable [Std.LawfulEqOrd κ]

theorem lookup_cons_self (k : κ) (v : α) (l : List (κ × α)) : lookup k ((k, v) :: l) = some v := by
  simp [lookup]

theorem lookup_cons_of_ne {k k' : κ} (v : α) (l : List (κ × α)) (h : k ≠ k') :
    lookup k ((k', v) :: l) = lookup k l := by
  simp [lookup, h]

theorem lookup_cons [DecidableEq κ] (k k' : κ) (v : α) (l : List (κ × α)) :
    lookup k ((k', v) :: l) = if k = k' then some v else lookup k l := by
  by_cases h : k = k'
  · rw [if_pos h, h, lookup_cons_self]
  · rw [if_neg h, lookup_cons_of_ne v l h]

/-- A key that does not occur has no value. -/
theorem lookup_eq_none {k : κ} : ∀ {l : List (κ × α)}, (∀ e ∈ l, k ≠ e.1) → lookup k l = none
  | [], _ => rfl
  | (k', v) :: l, h => by
    rw [lookup_cons_of_ne v l (h _ List.mem_cons_self)]
    exact lookup_eq_none fun e he => h e (List.mem_cons_of_mem _ he)

/-- A key with a value occurs with it. -/
theorem mem_of_lookup {k : κ} {v : α} : ∀ {l : List (κ × α)}, lookup k l = some v → (k, v) ∈ l
  | [], h => by cases h
  | (k', v') :: l, h => by
    unfold lookup at h
    split at h
    · next heq =>
      cases Std.LawfulEqCmp.eq_of_compare heq
      cases h
      exact List.mem_cons_self
    · exact List.mem_cons_of_mem _ (mem_of_lookup h)

/-- The head of an ascending list has no second entry. -/
theorem lookup_tail {k : κ} {v : α} {l : List (κ × α)} (h : Ascending ((k, v) :: l)) :
    lookup k l = none := by
  refine lookup_eq_none fun e he hk => ?_
  have hlt := (List.pairwise_cons.mp h).1 e he
  simp [hk] at hlt

/-- Every entry of an ascending list is found under its key. -/
theorem lookup_of_mem {k : κ} {v : α} :
    ∀ {l : List (κ × α)}, Ascending l → (k, v) ∈ l → lookup k l = some v
  | [], _, h => by cases h
  | (k', v') :: l, ha, h => by
    rcases List.mem_cons.mp h with h | h
    · cases h
      exact lookup_cons_self k v l
    · have hne : k ≠ k' := by
        intro hk
        have hlt := (List.pairwise_cons.mp ha).1 _ h
        simp [hk] at hlt
      rw [lookup_cons_of_ne v' l hne]
      exact lookup_of_mem (List.pairwise_cons.mp ha).2 h

/-- The entries of a map are its keys with their values. -/
theorem mem_toList {m : SortedMap κ α} {k : κ} {v : α} : (k, v) ∈ m.toList ↔ m.get? k = some v :=
  ⟨fun h => lookup_of_mem m.ascending h, fun h => mem_of_lookup h⟩

theorem mem_keys {m : SortedMap κ α} {k : κ} : k ∈ m.keys ↔ (m.get? k).isSome = true := by
  unfold keys
  rw [List.mem_map, Option.isSome_iff_exists]
  constructor
  · rintro ⟨⟨k', v⟩, hmem, rfl⟩
    exact ⟨v, mem_toList.mp hmem⟩
  · rintro ⟨v, hget⟩
    exact ⟨(k, v), mem_toList.mpr hget, rfl⟩

theorem nodup_keys (m : SortedMap κ α) : m.keys.Nodup := by
  unfold keys List.Nodup
  rw [List.pairwise_map]
  refine m.ascending.imp fun {a b} hlt heq => ?_
  simp [heq] at hlt

/-- Looking a key up among the entries whose values a function keeps. -/
theorem lookup_filterMap [DecidableEq κ] {β : Type} (f : κ → α → Option β) (j : κ) : ∀ {l : List (κ × α)},
    Ascending l → lookup j (l.filterMap fun e => (f e.1 e.2).map (e.1, ·)) = (lookup j l).bind (f j)
  | [], _ => rfl
  | (k, v) :: l, h => by
    have ih := lookup_filterMap f j (List.pairwise_cons.mp h).2
    rw [List.filterMap_cons, lookup_cons]
    by_cases hj : j = k
    · subst hj
      rw [lookup_tail h] at ih
      cases hv : f j v with
      | none => simpa [hv] using ih
      | some w => simp [hv, lookup_cons_self]
    · cases hv : f k v with
      | none => simpa [hv, hj] using ih
      | some w => simpa [hv, hj, lookup_cons] using ih

theorem get?_erase [DecidableEq κ] (m : SortedMap κ α) (j k : κ) :
    (m.erase k).get? j = if j = k then none else m.get? j := by
  have hguard : (fun e : κ × α => (if e.1 = k then none else some e.2).map (e.1, ·)) =
      Option.guard fun e => compare e.1 k != .eq := by
    funext e
    by_cases hk : e.1 = k <;> simp [Option.guard, hk]
  have hfilter : (m.erase k).entries =
      m.entries.filterMap fun e => (if e.1 = k then none else some e.2).map (e.1, ·) := by
    rw [hguard, List.filterMap_eq_filter]
    rfl
  unfold get?
  rw [hfilter, lookup_filterMap (fun k' v => if k' = k then none else some v) j m.ascending]
  by_cases hj : j = k <;> cases lookup j m.entries <;> simp [hj]

theorem get?_mapValues [DecidableEq κ] {β : Type} (f : κ → α → β) (m : SortedMap κ α) (j : κ) :
    (m.mapValues f).get? j = (m.get? j).map (f j) := by
  have hkeep := lookup_filterMap (fun k v => some (f k v)) j m.ascending
  have hmap : m.entries.filterMap (fun e => (some (f e.1 e.2)).map (e.1, ·)) = (m.mapValues f).entries :=
    congrFun List.filterMap_eq_map' m.entries
  rw [hmap] at hkeep
  exact hkeep.trans (Option.map_eq_bind.symm)

/-- A put key has its new value, and every other key the value it had. -/
theorem lookup_put [DecidableEq κ] (j k : κ) (v : α) :
    ∀ l : List (κ × α), lookup j (put k v l) = if j = k then some v else lookup j l
  | [] => lookup_cons j k v []
  | (k', v') :: l => by
    unfold put
    split
    · rw [lookup_cons]
    · next heq =>
      cases Std.LawfulEqCmp.eq_of_compare heq
      by_cases h : j = k
      · rw [if_pos h, h, lookup_cons_self]
      · rw [if_neg h, lookup_cons_of_ne v l h, lookup_cons_of_ne v' l h]
    · next hgt =>
      have hne : k ≠ k' := by
        rintro rfl
        simp at hgt
      rw [lookup_cons, lookup_put j k v l, lookup_cons]
      by_cases h : j = k
      · rw [if_neg (h ▸ hne), if_pos h, if_pos h]
      · rw [if_neg h, if_neg h]

variable [Std.TransOrd κ]

/-- A key below the first has no value in an ascending list. -/
theorem lookup_of_lt {k k' : κ} {v : α} {l : List (κ × α)} (h : Ascending ((k', v) :: l))
    (hlt : compare k k' = .lt) : lookup k ((k', v) :: l) = none := by
  refine lookup_eq_none fun e he hk => ?_
  have hle : compare k e.1 = .lt := by
    rcases List.mem_cons.mp he with rfl | he
    · exact hlt
    · exact Std.TransCmp.lt_trans hlt ((List.pairwise_cons.mp h).1 e he)
  simp [hk] at hle

/-- Two ascending lists with the same lookups are equal: their heads must agree, and then so do their tails. -/
theorem eq_of_lookup_eq : ∀ {l l' : List (κ × α)}, Ascending l → Ascending l' →
    (∀ k, lookup k l = lookup k l') → l = l'
  | [], [], _, _, _ => rfl
  | [], (k, v) :: l', _, _, h => by simpa [lookup_cons_self] using h k
  | (k, v) :: l, [], _, _, h => by simpa [lookup_cons_self] using h k
  | (k, v) :: l, (k', v') :: l', ha, ha', h => by
    have hk : k = k' := by
      cases hc : compare k k' with
      | lt => simpa [lookup_cons_self, lookup_of_lt ha' hc] using h k
      | eq => exact Std.LawfulEqCmp.eq_of_compare hc
      | gt => simpa [lookup_cons_self, lookup_of_lt ha (Std.OrientedCmp.gt_iff_lt.mp hc)] using h k'
    subst hk
    have hv : v = v' := by simpa [lookup_cons_self] using h k
    subst hv
    have htail : l = l' := by
      refine eq_of_lookup_eq (List.pairwise_cons.mp ha).2 (List.pairwise_cons.mp ha').2 fun j => ?_
      cases hj : compare j k with
      | eq =>
        cases Std.LawfulEqCmp.eq_of_compare hj
        rw [lookup_tail ha, lookup_tail ha']
      | lt => simpa [lookup, hj] using h j
      | gt => simpa [lookup, hj] using h j
    rw [htail]

/-! ## Maps -/

/-- A map is determined by its lookups. -/
theorem eq_of_get?_eq {m n : SortedMap κ α} (h : ∀ k, m.get? k = n.get? k) : m = n :=
  ext (eq_of_lookup_eq m.ascending n.ascending h)

variable [DecidableEq κ]

theorem get?_insert (m : SortedMap κ α) (j k : κ) (v : α) :
    (m.insert k v).get? j = if j = k then some v else m.get? j := lookup_put j k v m.entries

theorem get?_insertNew (m : SortedMap κ α) (j k : κ) (v : α) :
    (m.insertNew k v).get? j = if j = k then some ((m.get? k).getD v) else m.get? j := by
  unfold insertNew contains
  cases h : m.get? k with
  | none => simp [get?_insert]
  | some w =>
    by_cases hj : j = k
    · simp [hj, h]
    · simp [hj]

/-- The names of a list put into a map as new keys with one value: old keys keep theirs. -/
theorem get?_foldl_insertNew (j : κ) (v : α) : ∀ (keys : List κ) (m : SortedMap κ α),
    (keys.foldl (fun m k => m.insertNew k v) m).get? j = (m.get? j).or (if j ∈ keys then some v else none)
  | [], m => by simp
  | k :: keys, m => by
    rw [List.foldl_cons, get?_foldl_insertNew j v keys, get?_insertNew]
    by_cases hj : j = k
    · subst hj
      cases m.get? j <;> simp
    · simp [hj]

theorem get?_addAll_empty (j : κ) (members : List κ) :
    (empty.addAll members).get? j = if j ∈ members then some () else none :=
  get?_foldl_insertNew j () members empty |>.trans Option.none_or

theorem get?_foldl_insert_map (f : κ → α) (j : κ) : ∀ (keys : List κ) (m : SortedMap κ α),
    ((keys.map fun k => (k, f k)).foldl (fun m e => m.insert e.1 e.2) m).get? j =
      if j ∈ keys then some (f j) else m.get? j
  | [], m => by simp
  | k :: keys, m => by
    rw [List.map_cons, List.foldl_cons, get?_foldl_insert_map f j keys, get?_insert]
    by_cases hj : j = k
    · subst hj
      by_cases h : j ∈ keys <;> simp [h]
    · simp [hj]

/-- The map of a list of keys, each with the value that a function gives it. -/
theorem get?_ofList_map (f : κ → α) (keys : List κ) (j : κ) :
    (ofList (keys.map fun k => (k, f k))).get? j = if j ∈ keys then some (f j) else none :=
  get?_foldl_insert_map f j keys empty

/-- The entries of an ascending list put into a map: the list counts where it names the key. -/
theorem get?_foldl_insert (j : κ) : ∀ {l : List (κ × α)} (m : SortedMap κ α), Ascending l →
    (l.foldl (fun m e => m.insert e.1 e.2) m).get? j = (lookup j l).or (m.get? j)
  | [], m, _ => by simp
  | (k, v) :: l, m, h => by
    rw [List.foldl_cons, get?_foldl_insert j _ (List.pairwise_cons.mp h).2, get?_insert, lookup_cons]
    by_cases hj : j = k
    · subst hj
      rw [lookup_tail h]
      simp
    · simp [hj]

theorem get?_ofList {l : List (κ × α)} (h : Ascending l) (j : κ) : (ofList l).get? j = lookup j l := by
  refine (get?_foldl_insert j empty h).trans ?_
  rw [show (empty : SortedMap κ α).get? j = none from rfl, Option.or_none]

/-- A map is the map of its entries. -/
theorem ofList_toList (m : SortedMap κ α) : ofList m.toList = m :=
  eq_of_get?_eq fun k => get?_ofList m.ascending k

end SortedMap

section

variable {κ : Type} [Ord κ] [Std.TransOrd κ] [Std.LawfulEqOrd κ]

theorem mem_sortedSet [DecidableEq κ] {members : List κ} {k : κ} : k ∈ sortedSet members ↔ k ∈ members := by
  have hkeys : sortedSet members = (SortedMap.empty.addAll members).keys := rfl
  rw [hkeys, SortedMap.mem_keys, SortedMap.get?_addAll_empty]
  by_cases h : k ∈ members
  · rw [if_pos h]
    exact iff_of_true rfl h
  · rw [if_neg h]
    exact iff_of_false Bool.false_ne_true h

theorem nodup_sortedSet (members : List κ) : (sortedSet members).Nodup := SortedMap.nodup_keys _

theorem pairwise_sortedSet (members : List String) : (sortedSet members).Pairwise (· < ·) :=
  (SortedMap.pairwise_keys _).imp compareOfLessAndEq_eq_lt.mp

end

end ScenarioStubs
