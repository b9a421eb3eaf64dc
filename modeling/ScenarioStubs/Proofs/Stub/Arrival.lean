import Mathlib.Data.List.Induction
import Mathlib.Data.Set.Card
import ScenarioStubs.Proofs.Since
import ScenarioStubs.Proofs.Stub.Registry

/-!
# Runs of a registry

A registry is changed by adding, replacing, removing and clearing (`Registry.Operation`). What a run of these leaves is
told by the run alone: which identifiers are present (`Present`), what was stored last under each of them (`Latest`),
and when each of them arrived (`ArrivedAt`). Each step keeps the registry as the run so far describes it
(`Describes.step`), so it is described by the whole run (`describes_after`), and `after_in_arrival_order` reads off what
that means for lookups, the order of the mappings and their number.
-/

namespace ScenarioStubs
namespace Registry

/-- What can be done to a registry. -/
inductive Operation
  | add (m : StubMapping)
  | replace (id : StubId) (m : StubMapping)
  | remove (id : StubId)
  | clear

/-- The registry after an operation; a refused replacement leaves it as it is. -/
def step (r : Registry) : Operation → Registry
  | .add m => r.add m
  | .replace id m =>
    match r.replace id m with
    | .ok r' => r'
    | .error _ => r
  | .remove id => (r.remove id).2
  | .clear => empty

/-- The registry after a run. -/
def after (r : Registry) (ops : List Operation) : Registry := ops.foldl step r

/-! ## What a run tells -/

/-- The operation adds a mapping under an identifier. -/
def Operation.Adds (id : StubId) : Operation → Prop
  | .add m => m.id = id
  | _ => False

/-- The operation takes away what is under an identifier. -/
def Operation.Drops (id : StubId) : Operation → Prop
  | .remove id' => id' = id
  | .clear => True
  | _ => False

/-- The identifier was added and not dropped since. -/
def Present (ops : List Operation) (id : StubId) : Prop :=
  ∃ i, SinceAt (fun _ op => op.Adds id) (fun _ op => ¬op.Drops id) ops i

/-- The operation stores a mapping under an identifier: it adds the mapping, or replaces the one under an identifier
that is present by it. A mapping that replaces another takes its identifier. -/
def Operation.Stores (id : StubId) (m : StubMapping) (before : List Operation) : Operation → Prop
  | .add m' => m'.id = id ∧ m' = m
  | .replace id' m' => id' = id ∧ m'.withId id = m ∧ Present before id
  | _ => False

/-- The mapping was stored under the identifier, and since then nothing was stored there and nothing was dropped. -/
def Latest (ops : List Operation) (id : StubId) (m : StubMapping) : Prop :=
  ∃ i, SinceAt (fun before op => op.Stores id m before)
    (fun before op => ¬op.Drops id ∧ ∀ m', ¬op.Stores id m' before) ops i

/-- The identifier was added at place `i` of the run when it was absent, and not dropped since. -/
def ArrivedAt (ops : List Operation) (id : StubId) (i : Nat) : Prop :=
  SinceAt (fun before op => op.Adds id ∧ ¬Present before id) (fun _ op => ¬op.Drops id) ops i

/-- Both identifiers are present, and the first arrived before the second. -/
def ArrivedBefore (ops : List Operation) (id id' : StubId) : Prop :=
  ∃ i j, ArrivedAt ops id i ∧ ArrivedAt ops id' j ∧ i < j

variable {ops : List Operation} {op : Operation} {id id' : StubId} {m : StubMapping} {i j : Nat}

theorem present_concat : Present (ops ++ [op]) id ↔ op.Adds id ∨ Present ops id ∧ ¬op.Drops id :=
  exists_sinceAt_concat

theorem latest_concat : Latest (ops ++ [op]) id m ↔
    op.Stores id m ops ∨ Latest ops id m ∧ ¬op.Drops id ∧ ∀ m', ¬op.Stores id m' ops :=
  exists_sinceAt_concat

theorem arrivedAt_concat : ArrivedAt (ops ++ [op]) id i ↔
    i = ops.length ∧ op.Adds id ∧ ¬Present ops id ∨ ArrivedAt ops id i ∧ ¬op.Drops id :=
  sinceAt_concat

theorem not_present_nil : ¬Present [] id := not_exists_sinceAt_nil

theorem not_latest_nil : ¬Latest [] id m := not_exists_sinceAt_nil

theorem ArrivedAt.present (h : ArrivedAt ops id i) : Present ops id := by
  obtain ⟨⟨op, hop, hadds, -⟩, hsince⟩ := h
  exact ⟨i, ⟨op, hop, hadds⟩, hsince⟩

/-- What is present has arrived. -/
theorem Present.exists_arrivedAt (h : Present ops id) : ∃ i, ArrivedAt ops id i := by
  induction ops using List.reverseRecOn with
  | nil => exact absurd h not_present_nil
  | append_singleton ops op ih =>
    by_cases hbefore : Present ops id
    · have hkept : ¬op.Drops id := by
        obtain hadds | ⟨-, hkept⟩ := present_concat.mp h
        · cases op with
          | add m => exact fun hdrops => hdrops
          | replace | remove | clear => cases hadds
        · exact hkept
      obtain ⟨i, hi⟩ := ih hbefore
      exact ⟨i, arrivedAt_concat.mpr (.inr ⟨hi, hkept⟩)⟩
    · obtain hadds | ⟨hpresent, -⟩ := present_concat.mp h
      · exact ⟨ops.length, arrivedAt_concat.mpr (.inl ⟨rfl, hadds, hbefore⟩)⟩
      · exact absurd hpresent hbefore

/-- An identifier that has arrived and was not dropped cannot arrive again. -/
theorem ArrivedAt.unique (h : ArrivedAt ops id i) (h' : ArrivedAt ops id j) : i = j := by
  induction ops using List.reverseRecOn with
  | nil => exact absurd h not_sinceAt_nil
  | append_singleton ops op ih =>
    rcases arrivedAt_concat.mp h with ⟨rfl, -, habsent⟩ | ⟨h, -⟩ <;>
      rcases arrivedAt_concat.mp h' with ⟨rfl, -, habsent'⟩ | ⟨h', -⟩
    · rfl
    · exact absurd h'.present habsent
    · exact absurd h.present habsent'
    · exact ih h h'

/-! ## The invariant -/

/-- The registry is as the run tells. -/
structure Describes (ops : List Operation) (r : Registry) : Prop where
  nodup : r.ids.Nodup
  mem_ids : ∀ id, id ∈ r.ids ↔ Present ops id
  get? : ∀ id m, r.get? id = some m ↔ Latest ops id m
  order : r.ids.Pairwise (ArrivedBefore ops)

theorem describes_nil : Describes [] empty where
  nodup := List.nodup_nil
  mem_ids _ := ⟨fun h => absurd h List.not_mem_nil, fun h => absurd h not_present_nil⟩
  get? _ _ := ⟨fun h => (nomatch h), fun h => absurd h not_latest_nil⟩
  order := List.Pairwise.nil

namespace Describes

variable {r : Registry}

/-- An operation that drops neither of two identifiers leaves their order as it is. -/
theorem arrivedBefore_concat (h : ArrivedBefore ops id id') (hid : ¬op.Drops id) (hid' : ¬op.Drops id') :
    ArrivedBefore (ops ++ [op]) id id' := by
  obtain ⟨i, j, hi, hj, hij⟩ := h
  exact ⟨i, j, arrivedAt_concat.mpr (.inr ⟨hi, hid⟩), arrivedAt_concat.mpr (.inr ⟨hj, hid'⟩), hij⟩

/-- Where no identifier comes or goes, the identifiers stay as the run tells. -/
theorem of_ids_eq (h : Describes ops r) {r' : Registry} (hids : r'.ids = r.ids)
    (hadds : ∀ id, op.Adds id → id ∈ r.ids) (hdrops : ∀ id, ¬op.Drops id)
    (hget : ∀ id m, r'.get? id = some m ↔ Latest (ops ++ [op]) id m) : Describes (ops ++ [op]) r' where
  nodup := hids ▸ h.nodup
  mem_ids id := by
    rw [hids, present_concat, ← h.mem_ids]
    exact ⟨fun hid => .inr ⟨hid, hdrops id⟩, fun hid => hid.elim (hadds id) And.left⟩
  get? := hget
  order := hids ▸ h.order.imp fun hbefore => arrivedBefore_concat hbefore (hdrops _) (hdrops _)

/-- Where one identifier comes in behind the others and none goes, it has arrived now and the others are as they were. -/
theorem of_ids_concat (h : Describes ops r) {r' : Registry} (hids : r'.ids = r.ids ++ [id]) (hnodup : r'.ids.Nodup)
    (hnew : id ∉ r.ids) (hadds : ∀ j, op.Adds j ↔ id = j) (hdrops : ∀ j, ¬op.Drops j)
    (hget : ∀ j m, r'.get? j = some m ↔ Latest (ops ++ [op]) j m) : Describes (ops ++ [op]) r' where
  nodup := hnodup
  mem_ids j := by
    rw [hids, present_concat, ← h.mem_ids, List.mem_append, List.mem_singleton, hadds]
    constructor
    · rintro (hj | rfl)
      · exact .inr ⟨hj, hdrops j⟩
      · exact .inl rfl
    · rintro (rfl | ⟨hj, -⟩)
      · exact .inr rfl
      · exact .inl hj
  get? := hget
  order := by
    have harrived : ArrivedAt (ops ++ [op]) id ops.length :=
      arrivedAt_concat.mpr (.inl ⟨rfl, (hadds id).mpr rfl, fun hid => hnew ((h.mem_ids id).mpr hid)⟩)
    rw [hids, List.pairwise_append]
    refine ⟨h.order.imp fun hbefore => arrivedBefore_concat hbefore (hdrops _) (hdrops _),
      List.pairwise_singleton _ _, fun j hj j' hj' => ?_⟩
    -- Every identifier that was there arrived at an earlier place.
    rw [List.mem_singleton.mp hj']
    obtain ⟨i, hi⟩ := ((h.mem_ids j).mp hj).exists_arrivedAt
    exact ⟨i, ops.length, arrivedAt_concat.mpr (.inr ⟨hi, hdrops j⟩), harrived, hi.lt_length⟩

theorem add (h : Describes ops r) (m : StubMapping) : Describes (ops ++ [.add m]) (r.add m) := by
  have hdrops : ∀ id, ¬(Operation.add m).Drops id := fun _ hdrops => hdrops
  have hget : ∀ id m', (r.add m).get? id = some m' ↔ Latest (ops ++ [.add m]) id m' := by
    intro id m'
    rw [get?_add, latest_concat, ← h.get?]
    by_cases hid : id = m.id
    · subst hid
      simp [Operation.Stores]
    · simp [Operation.Stores, Operation.Drops, hid, Ne.symm hid]
  have hids := r.ids_add m
  by_cases hpresent : m.id ∈ r.ids
  · rw [if_pos hpresent] at hids
    refine h.of_ids_eq hids (fun id hid => ?_) hdrops hget
    exact hid ▸ hpresent
  · rw [if_neg hpresent] at hids
    exact h.of_ids_concat hids (nodup_ids_add h.nodup m) hpresent (fun _ => Iff.rfl) hdrops hget

theorem replace (h : Describes ops r) (id : StubId) (m : StubMapping) :
    Describes (ops ++ [.replace id m]) (r.step (.replace id m)) := by
  have hdrops : ∀ j, ¬(Operation.replace id m).Drops j := fun _ hdrops => hdrops
  have hadds : ∀ j, (Operation.replace id m).Adds j → j ∈ r.ids := fun _ hadds => nomatch hadds
  unfold step
  by_cases hpresent : id ∈ r.ids
  · have hreplace := replace_of_mem hpresent m
    have hbefore := (h.mem_ids id).mp hpresent
    simp only [hreplace]
    refine h.of_ids_eq (ids_replace hreplace) hadds hdrops fun j m' => ?_
    rw [get?_replace hreplace, latest_concat, ← h.get?]
    by_cases hj : j = id
    · subst hj
      simp [Operation.Stores, hbefore]
    · simp [Operation.Stores, Operation.Drops, hj, Ne.symm hj]
  · have hbefore : ¬Present ops id := fun hid => hpresent ((h.mem_ids id).mpr hid)
    simp only [replace_of_not_mem hpresent]
    refine h.of_ids_eq rfl hadds hdrops fun j m' => ?_
    rw [latest_concat, ← h.get?]
    have hstores : ∀ m', ¬(Operation.replace id m).Stores j m' ops := by
      rintro m' ⟨rfl, -, hj⟩
      exact hbefore hj
    simp [hstores, hdrops]

theorem remove (h : Describes ops r) (id : StubId) : Describes (ops ++ [.remove id]) (r.remove id).2 := by
  have hmem : ∀ j, j ∈ (r.remove id).2.ids ↔ j ∈ r.ids ∧ ¬(Operation.remove id).Drops j := fun j => by
    rw [ids_remove, h.nodup.mem_erase_iff, and_comm, ne_comm]
    rfl
  constructor
  case nodup => exact nodup_ids_remove h.nodup id
  case mem_ids =>
    intro j
    rw [hmem, present_concat, h.mem_ids]
    exact ⟨.inr, fun hj => hj.resolve_left fun hadds => hadds⟩
  case get? =>
    intro j m'
    rw [get?_remove h.nodup, latest_concat, ← h.get?]
    by_cases hj : j = id
    · simp [Operation.Stores, Operation.Drops, hj]
    · simp [Operation.Stores, Operation.Drops, hj, Ne.symm hj]
  case order =>
    have hsub : (r.remove id).2.ids.Sublist r.ids := ids_remove r id ▸ List.erase_sublist
    refine (h.order.sublist hsub).imp_of_mem fun hj hj' hbefore => ?_
    exact arrivedBefore_concat hbefore ((hmem _).mp hj).2 ((hmem _).mp hj').2

theorem clear : Describes (ops ++ [.clear]) empty where
  nodup := List.nodup_nil
  mem_ids id := by simp [present_concat, Operation.Adds, Operation.Drops]
  get? id m := by simp [latest_concat, Operation.Stores, Operation.Drops]
  order := List.Pairwise.nil

theorem step (h : Describes ops r) (op : Operation) : Describes (ops ++ [op]) (r.step op) := by
  cases op with
  | add m => exact h.add m
  | replace id m => exact h.replace id m
  | remove id => exact h.remove id
  | clear => exact clear

end Describes

/-- Every run describes the registry that it leaves. -/
theorem describes_after (ops : List Operation) : Describes ops (empty.after ops) := by
  induction ops using List.reverseRecOn with
  | nil => exact describes_nil
  | append_singleton ops op ih =>
    unfold after
    rw [List.foldl_append]
    exact ih.step op

/-- The number of mappings is that of the identifiers that are present. -/
theorem Describes.size_eq_ncard {r : Registry} (h : Describes ops r) : r.size = {id | Present ops id}.ncard := by
  have hset : {id | Present ops id} = (r.ids.toFinset : Set StubId) := by
    ext id
    rw [List.coe_toFinset]
    exact (h.mem_ids id).symm
  rw [hset, Set.ncard_coe_finset, List.toFinset_card_of_nodup h.nodup, size_eq]

/-- **A registry is a map in the order of arrival.** After a run from the empty registry, no identifier occurs twice.
The identifiers that occur are those that were added and not dropped since; the mapping found under one of them is the
last that was stored there. They stand in the order in which they arrived, each at one place of the run, and they are as
many as the registry says. Storing under an identifier that is present moves none of them, removing one leaves the
others in order, and replacing or removing one that is absent is refused or finds nothing, and changes nothing. -/
theorem after_in_arrival_order (ops : List Operation) :
    (empty.after ops).ids.Nodup ∧
      (∀ id, id ∈ (empty.after ops).ids ↔ Present ops id) ∧
      (∀ id m, (empty.after ops).get? id = some m ↔ Latest ops id m) ∧
      (∀ id, (empty.after ops).get? id = none ↔ ¬Present ops id) ∧
      (∀ id, Present ops id ↔ ∃! i, ArrivedAt ops id i) ∧
      (empty.after ops).ids.Pairwise (ArrivedBefore ops) ∧
      (empty.after ops).size = {id | Present ops id}.ncard ∧
      (∀ m, Present ops m.id → ((empty.after ops).add m).ids = (empty.after ops).ids) ∧
      (∀ id m, Present ops id →
        ∃ r, (empty.after ops).replace id m = .ok r ∧ r.ids = (empty.after ops).ids) ∧
      (∀ id, ((empty.after ops).remove id).1 = (empty.after ops).get? id ∧
        ((empty.after ops).remove id).2.ids = (empty.after ops).ids.filter (· != id)) ∧
      (∀ id, ¬Present ops id →
        (∀ m, (empty.after ops).replace id m = .error (.notFound id) ∧
          (empty.after ops).step (.replace id m) = empty.after ops) ∧
        (empty.after ops).remove id = (none, empty.after ops)) := by
  have h := describes_after ops
  refine ⟨h.nodup, h.mem_ids, h.get?, fun id => ?_, fun id => ?_, h.order, h.size_eq_ncard, fun m hm => ?_,
    fun id m hid => ?_, fun id => ⟨rfl, ?_⟩, fun id hid => ⟨fun m => ?_, ?_⟩⟩
  · rw [get?_eq_none_iff, h.mem_ids]
  · exact ⟨fun hid => hid.exists_arrivedAt.elim fun i hi => ⟨i, hi, fun j hj => hj.unique hi⟩,
      fun ⟨_, hi, _⟩ => hi.present⟩
  · rw [ids_add, if_pos ((h.mem_ids m.id).mpr hm)]
  · have hreplace := replace_of_mem ((h.mem_ids id).mpr hid) m
    exact ⟨_, hreplace, ids_replace hreplace⟩
  · rw [ids_remove, h.nodup.erase_eq_filter]
  · have hreplace := replace_of_not_mem (fun hmem => hid ((h.mem_ids id).mp hmem)) m
    exact ⟨hreplace, by simp only [step, hreplace]⟩
  · exact remove_of_not_mem fun hmem => hid ((h.mem_ids id).mp hmem)

end Registry
end ScenarioStubs
