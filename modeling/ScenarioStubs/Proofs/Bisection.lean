import Mathlib.Algebra.Group.Nat.Defs
import ScenarioStubs.Proofs.SortedMap

/-!
# Finding a key by halving

The keys of a sorted map compare as their places do (`compare_entryAt`), so the half that a search goes on with is the
one in which the key stands (`bisect_of_entryAt`), and halving finds the keys of the map and no others
(`position?_eq_some_iff`). What stands at the place of a key is what the map says of it (`get?_eq_map_position?`), and
replacing it there is setting the key (`replaceAt_eq_insert`).
-/

namespace ScenarioStubs
namespace SortedMap

variable {κ α : Type} [Ord κ]

theorem keys_replaceAt (m : SortedMap κ α) (i : Fin m.size) (v : α) : (m.replaceAt i v).keys = m.keys :=
  map_fst_set m.entries i i.isLt v

theorem mem_entries_iff (m : SortedMap κ α) (e : κ × α) : e ∈ m.entries ↔ ∃ i, m.entryAt i = e := List.mem_iff_get

theorem compare_entryAt_of_lt (m : SortedMap κ α) {i j : Fin m.size} (h : i < j) :
    compare (m.entryAt i).1 (m.entryAt j).1 = .lt :=
  List.pairwise_iff_getElem.mp m.ascending i j i.isLt j.isLt h

/-- At a place that a search finds stands the key, whatever the stretch. -/
theorem entryAt_of_bisect [Std.LawfulEqOrd κ] {m : SortedMap κ α} {k : κ} {n lo hi : Nat} {hhi : hi ≤ m.size}
    {i : Fin m.size} (h : m.bisect k n lo hi hhi = some i) : (m.entryAt i).1 = k := by
  fun_induction bisect m k n lo hi hhi with
  | case1 => cases h
  | case2 n lo hi hhi hlt mid hmid hless ih => exact ih h
  | case3 n lo hi hhi hlt mid hmid heq =>
    cases h
    exact (Std.LawfulEqCmp.eq_of_compare heq).symm
  | case4 n lo hi hhi hlt mid hmid hgreater ih => exact ih h
  | case5 => cases h

variable [Std.TransOrd κ]

/-- The keys of a map compare as their places do. -/
theorem compare_entryAt (m : SortedMap κ α) (i j : Fin m.size) :
    compare (m.entryAt i).1 (m.entryAt j).1 = compare i.val j.val := by
  rcases Nat.lt_trichotomy i j with hlt | heq | hgt
  · rw [m.compare_entryAt_of_lt hlt, Nat.compare_eq_lt.mpr hlt]
  · rw [Fin.ext heq, Std.ReflOrd.compare_self, Std.ReflOrd.compare_self]
  · rw [Std.OrientedCmp.gt_iff_lt.mpr (m.compare_entryAt_of_lt hgt), Nat.compare_eq_gt.mpr hgt]

/-- A search finds the place of a key that stands in the stretch, if it may halve the stretch often enough. -/
theorem bisect_of_entryAt (m : SortedMap κ α) {k : κ} {n lo hi : Nat} {hhi : hi ≤ m.size} {i : Fin m.size}
    (hk : (m.entryAt i).1 = k) (hlo : lo ≤ i.val) (hbelow : i.val < hi) (hn : hi - lo < 2 ^ n) :
    m.bisect k n lo hi hhi = some i := by
  subst hk
  fun_induction bisect m (m.entryAt i).1 n lo hi hhi with
  | case1 => omega
  | case2 n lo hi hhi hlt mid hmid hless ih =>
    -- The key compares with the middle one as its place does with the middle, so it is in the half searched next.
    rw [compare_entryAt, Nat.compare_eq_lt] at hless
    exact ih hlo hless (by omega)
  | case3 n lo hi hhi hlt mid hmid heq =>
    rw [compare_entryAt, Nat.compare_eq_eq] at heq
    exact congrArg some (Fin.ext heq.symm)
  | case4 n lo hi hhi hlt mid hmid hgreater ih =>
    rw [compare_entryAt, Nat.compare_eq_gt] at hgreater
    exact ih hgreater hbelow (by omega)
  | case5 => omega

variable [Std.LawfulEqOrd κ]

/-- Halving finds a key exactly at its place. -/
theorem position?_eq_some_iff {m : SortedMap κ α} {k : κ} {i : Fin m.size} :
    m.position? k = some i ↔ (m.entryAt i).1 = k := by
  have henough : m.size - 0 < 2 ^ (m.size.log2 + 1) := Nat.lt_log2_self
  exact ⟨entryAt_of_bisect, fun hk => m.bisect_of_entryAt hk (Nat.zero_le _) i.isLt henough⟩

/-- The value under a key stands at the place of the key. -/
theorem get?_eq_map_position? (m : SortedMap κ α) (k : κ) :
    m.get? k = (m.position? k).map fun i => (m.entryAt i).2 := by
  refine Option.ext fun v => ?_
  rw [← mem_toList, Option.map_eq_some_iff]
  simp only [position?_eq_some_iff]
  refine (m.mem_entries_iff (k, v)).trans (exists_congr fun i => ?_)
  rw [Prod.ext_iff]

/-- Putting a value under the key of an entry replaces that entry. -/
theorem put_eq_set {k : κ} {v : α} : ∀ {l : List (κ × α)} (i : Nat) (hi : i < l.length), Ascending l → l[i].1 = k →
    put k v l = l.set i (k, v)
  | [], i, hi, _, _ => absurd hi (Nat.not_lt_zero i)
  | (k', v') :: l, 0, _, _, hk => by
    cases hk
    simp [put]
  | (k', v') :: l, i + 1, hi, h, hk => by
    obtain ⟨hhead, htail⟩ := List.pairwise_cons.mp h
    have hi : i < l.length := Nat.lt_of_succ_lt_succ hi
    have hk : l[i].1 = k := hk
    have hgt : compare k k' = .gt := Std.OrientedCmp.gt_iff_lt.mpr (hk ▸ hhead l[i] (List.getElem_mem hi))
    rw [put, hgt]
    exact congrArg _ (put_eq_set i hi htail hk)

/-- Replacing the value at a place is setting the key that stands there. -/
theorem replaceAt_eq_insert (m : SortedMap κ α) (i : Fin m.size) (v : α) :
    m.replaceAt i v = m.insert (m.entryAt i).1 v :=
  ext (put_eq_set i i.isLt m.ascending rfl).symm

end SortedMap
end ScenarioStubs
