/-!
# Finite maps in ascending key order

A `SortedMap` lists its entries in strictly ascending order of their keys, so two maps with the same entries are
equal, every listing of one is sorted, and the place of a key can be found by halving (`position?`). The order of texts
is by code point.
-/

namespace ScenarioStubs

/-- Entries whose keys ascend strictly. -/
def Ascending {κ α : Type} [Ord κ] (entries : List (κ × α)) : Prop :=
  entries.Pairwise fun a b => compare a.1 b.1 = .lt

/-- A finite map, as the list of its entries in ascending order of keys. -/
structure SortedMap (κ α : Type) [Ord κ] where
  entries : List (κ × α)
  ascending : Ascending entries

/-- Replacing the value of an entry leaves the keys as they are. -/
theorem map_fst_set {κ α : Type} (l : List (κ × α)) (i : Nat) (hi : i < l.length) (v : α) :
    (l.set i (l[i].1, v)).map Prod.fst = l.map Prod.fst := by
  have hlength : i < (l.map Prod.fst).length := by rwa [List.length_map]
  have hkey : (l.map Prod.fst)[i] = l[i].1 := List.getElem_map Prod.fst
  rw [List.map_set, ← hkey, List.set_getElem_self]

namespace SortedMap

variable {κ α : Type} [Ord κ]

/-- The map without entries. -/
def empty : SortedMap κ α := ⟨[], List.Pairwise.nil⟩

instance : Inhabited (SortedMap κ α) := ⟨empty⟩

instance : EmptyCollection (SortedMap κ α) := ⟨empty⟩

@[ext] theorem ext {m n : SortedMap κ α} (h : m.entries = n.entries) : m = n := by
  cases m; cases n; cases h; rfl

instance [DecidableEq κ] [DecidableEq α] : DecidableEq (SortedMap κ α) := fun m n =>
  if h : m.entries = n.entries then isTrue (ext h) else isFalse fun e => h (e ▸ rfl)

/-! ## Lists of entries -/

/-- The value under a key in a list of entries. -/
def lookup (k : κ) : List (κ × α) → Option α
  | [] => none
  | (k', v) :: rest => if compare k k' = .eq then some v else lookup k rest

/-- The list with the value of a key put in its place, over the old value if there is one. -/
def put (k : κ) (v : α) : List (κ × α) → List (κ × α)
  | [] => [(k, v)]
  | (k', v') :: rest =>
    match compare k k' with
    | .lt => (k, v) :: (k', v') :: rest
    | .eq => (k', v) :: rest
    | .gt => (k', v') :: put k v rest

theorem mem_of_mem_put {k : κ} {v : α} {e : κ × α} :
    ∀ {l : List (κ × α)}, e ∈ put k v l → e.1 = k ∨ ∃ e' ∈ l, e'.1 = e.1
  | [], h => by
    simp only [put, List.mem_singleton] at h
    exact .inl (h ▸ rfl)
  | (k', v') :: rest, h => by
    unfold put at h
    split at h
    · rcases List.mem_cons.mp h with h | h
      · exact .inl (h ▸ rfl)
      · exact .inr ⟨e, h, rfl⟩
    · rcases List.mem_cons.mp h with h | h
      · exact .inr ⟨(k', v'), List.mem_cons_self, h ▸ rfl⟩
      · exact .inr ⟨e, List.mem_cons_of_mem _ h, rfl⟩
    · rcases List.mem_cons.mp h with h | h
      · exact .inr ⟨(k', v'), List.mem_cons_self, h ▸ rfl⟩
      · rcases mem_of_mem_put h with h | ⟨e', he, hk⟩
        · exact .inl h
        · exact .inr ⟨e', List.mem_cons_of_mem _ he, hk⟩

theorem ascending_put [Std.TransOrd κ] {k : κ} {v : α} :
    ∀ {l : List (κ × α)}, Ascending l → Ascending (put k v l)
  | [], _ => List.pairwise_singleton _ _
  | (k', v') :: rest, h => by
    obtain ⟨hk, hrest⟩ := List.pairwise_cons.mp h
    unfold put
    split
    · next hlt =>
      refine List.pairwise_cons.mpr ⟨fun e he => ?_, h⟩
      rcases List.mem_cons.mp he with rfl | he
      · exact hlt
      · exact Std.TransCmp.lt_trans hlt (hk e he)
    · exact List.pairwise_cons.mpr ⟨hk, hrest⟩
    · next hgt =>
      refine List.pairwise_cons.mpr ⟨fun e he => ?_, ascending_put hrest⟩
      rcases mem_of_mem_put he with hek | ⟨e', he', hek⟩
      · exact hek ▸ Std.OrientedCmp.gt_iff_lt.mp hgt
      · exact hek ▸ hk e' he'

theorem ascending_set {l : List (κ × α)} (h : Ascending l) (i : Nat) (hi : i < l.length) (v : α) :
    Ascending (l.set i (l[i].1, v)) := by
  have hkeys : (l.map Prod.fst).Pairwise fun j k => compare j k = .lt := List.pairwise_map.mpr h
  rw [← map_fst_set l i hi v] at hkeys
  exact List.pairwise_map.mp hkeys

/-! ## Maps -/

/-- The value under a key. -/
def get? (m : SortedMap κ α) (k : κ) : Option α := lookup k m.entries

/-- Whether a key has a value. -/
def contains (m : SortedMap κ α) (k : κ) : Bool := (m.get? k).isSome

/-- The map with a key set to a value. -/
def insert [Std.TransOrd κ] (m : SortedMap κ α) (k : κ) (v : α) : SortedMap κ α :=
  ⟨put k v m.entries, ascending_put m.ascending⟩

/-- The map with a key set to a value unless it has one. -/
def insertNew [Std.TransOrd κ] (m : SortedMap κ α) (k : κ) (v : α) : SortedMap κ α :=
  if m.contains k then m else m.insert k v

/-- The map of the entries that satisfy `p`. -/
def filter (p : κ → α → Bool) (m : SortedMap κ α) : SortedMap κ α :=
  ⟨m.entries.filter fun e => p e.1 e.2, m.ascending.filter _⟩

/-- The map without a key. -/
def erase (m : SortedMap κ α) (k : κ) : SortedMap κ α := m.filter fun k' _ => compare k' k != .eq

/-- The map with every value changed by `f`. -/
def mapValues {β : Type} (f : κ → α → β) (m : SortedMap κ α) : SortedMap κ β :=
  ⟨m.entries.map fun e => (e.1, f e.1 e.2), by unfold Ascending; exact List.pairwise_map.mpr m.ascending⟩

/-- The keys, ascending. -/
def keys (m : SortedMap κ α) : List κ := m.entries.map (·.1)

/-- The entries, ascending. -/
def toList (m : SortedMap κ α) : List (κ × α) := m.entries

/-- The number of entries. -/
def size (m : SortedMap κ α) : Nat := m.entries.length

/-- Whether there is no entry. -/
def isEmpty (m : SortedMap κ α) : Bool := m.entries.isEmpty

/-- The map of a list of pairs; of two pairs with one key the later counts. -/
def ofList [Std.TransOrd κ] (pairs : List (κ × α)) : SortedMap κ α :=
  pairs.foldl (fun m e => m.insert e.1 e.2) empty

/-- A set, as a map that says nothing about its members, with the members of a list added. -/
def addAll [Std.TransOrd κ] (set : SortedMap κ Unit) (members : List κ) : SortedMap κ Unit :=
  members.foldl (fun m k => m.insertNew k ()) set

/-! ## Places -/

/-- The entry at a place. -/
def entryAt (m : SortedMap κ α) (i : Fin m.size) : κ × α := m.entries.get i

/-- The map with the value at a place replaced. -/
def replaceAt (m : SortedMap κ α) (i : Fin m.size) (v : α) : SortedMap κ α :=
  ⟨m.entries.set i ((m.entryAt i).1, v), ascending_set m.ascending i i.isLt v⟩

/-- The place of a key, from `lo` on and before `hi`, found by halving: the key in the middle is the one, or tells on
which side of it to look on. Fewer than `2 ^ n` places are looked through when they have been halved `n` times. -/
def bisect (m : SortedMap κ α) (k : κ) : (n lo hi : Nat) → hi ≤ m.size → Option (Fin m.size)
  | 0, _, _, _ => none
  | n + 1, lo, hi, hhi =>
    if h : lo < hi then
      let mid := lo + (hi - lo) / 2
      have hmid : mid < m.size := by omega
      match compare k (m.entryAt ⟨mid, hmid⟩).1 with
      | .lt => m.bisect k n lo mid (Nat.le_of_lt hmid)
      | .eq => some ⟨mid, hmid⟩
      | .gt => m.bisect k n (mid + 1) hi hhi
    else none

/-- The place of a key. -/
def position? (m : SortedMap κ α) (k : κ) : Option (Fin m.size) :=
  m.bisect k (m.size.log2 + 1) 0 m.size (Nat.le_refl _)

end SortedMap

/-- The distinct members of a list, ascending. -/
def sortedSet {κ : Type} [Ord κ] [Std.TransOrd κ] (members : List κ) : List κ :=
  (members.foldl (fun m k => m.insertNew k ()) (SortedMap.empty : SortedMap κ Unit)).keys

end ScenarioStubs
