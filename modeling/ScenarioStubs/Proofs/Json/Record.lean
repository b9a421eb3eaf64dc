import ScenarioStubs.Proofs.Json.RoundTrip
import ScenarioStubs.Proofs.SortedMap

/-!
# Reading written records

A record is written as the fields that have a value, in a fixed order (`Json.present`). Read by its names, it gives
each field the value it was written with, or the default where it was left out (`field?_present`). Texts, numbers and
tables are read as what they were written for (`text?_text`, `natBelow?_nat`, `mapM_table`).
-/

namespace ScenarioStubs

namespace Json

/-- The fields that have a value. -/
def present (slots : List (String × Option Json)) : List (String × Json) :=
  slots.filterMap fun slot => slot.2.map (slot.1, ·)

theorem mem_present {name : String} {v : Json} {slots : List (String × Option Json)} :
    (name, v) ∈ present slots ↔ (name, some v) ∈ slots := by
  unfold present
  rw [List.mem_filterMap]
  constructor
  · rintro ⟨⟨name', value⟩, hslot, heq⟩
    obtain ⟨v', rfl, hpair⟩ := Option.map_eq_some_iff.mp heq
    cases hpair
    exact hslot
  · exact fun h => ⟨_, h, rfl⟩

theorem names_present_sublist : ∀ slots : List (String × Option Json),
    ((present slots).map (·.1)).Sublist (slots.map (·.1))
  | [] => .slnil
  | (_, none) :: slots => (names_present_sublist slots).cons _
  | (_, some _) :: slots => (names_present_sublist slots).cons_cons _

theorem plain_present {slots : List (String × Option Json)} (h : ∀ slot ∈ slots, ∀ v ∈ slot.2, v.Plain) :
    (Json.fields (present slots)).Plain :=
  .fields fun f hf => h (f.1, some f.2) (mem_present.mp hf) f.2 rfl

/-- Looking a name up among the fields that have a value. -/
theorem lookup_present {slots : List (String × Option Json)} (hnodup : (slots.map (·.1)).Nodup) {name : String}
    {value : Option Json} (h : (name, value) ∈ slots) : (present slots).lookup name = value := by
  induction slots with
  | nil => cases h
  | cons slot slots ih =>
    obtain ⟨hnew, hrest⟩ := List.nodup_cons.mp hnodup
    obtain heq | hmem := List.mem_cons.mp h
    · cases heq
      cases value with
      | some v => exact List.lookup_cons_self
      | none =>
        -- A field that is left out is not among the later ones.
        refine List.lookup_eq_none_iff.mpr fun f hf => bne_iff_ne.mpr fun hname => hnew ?_
        exact List.mem_map.mpr ⟨(f.1, some f.2), mem_present.mp hf, hname.symm⟩
    · have hne : name ≠ slot.1 := fun hname => hnew (List.mem_map.mpr ⟨(name, value), hmem, hname⟩)
      have htail := ih hrest hmem
      obtain ⟨name', value'⟩ := slot
      cases value' with
      | none => exact htail
      | some v =>
        show ((name', v) :: present slots).lookup name = value
        rw [List.lookup_cons, beq_false_of_ne hne]
        exact htail

theorem text?_text (s : String) : Document.text? (Json.text s) = some s := rfl

theorem fields?_fields (fs : List (String × Json)) : Document.fields? (Json.fields fs) = some fs := by
  show (fs.map fun f => (some f.1, f.2)).mapM (fun f : Option String × Json => f.1.map (·, f.2)) = some fs
  induction fs with
  | nil => rfl
  | cons f fs ih => simp [ih]

theorem plain_of_map_text {value : Option String} {v : Json} (hv : value.map text = some v) : v.Plain := by
  obtain ⟨s, -, rfl⟩ := Option.map_eq_some_iff.mp hv
  exact .text s

/-- The table of a map, if the map has an entry. -/
def table? {α : Type} (encode : α → Json) (m : SortedMap String α) : Option Json :=
  if m.isEmpty then none else some (.fields (m.toList.map fun e => (e.1, encode e.2)))

theorem plain_of_table? {α : Type} {encode : α → Json} (h : ∀ a, (encode a).Plain) {m : SortedMap String α} {v : Json}
    (hv : table? encode m = some v) : v.Plain := by
  unfold table? at hv
  split at hv
  case isTrue => cases hv
  case isFalse =>
    cases hv
    refine .fields fun f hf => ?_
    obtain ⟨e, -, rfl⟩ := List.mem_map.mp hf
    exact h e.2

end Json

namespace Record

theorem of?_present {names : List String} {slots : List (String × Option Json)}
    (hnodup : (slots.map (·.1)).Nodup) (hknown : ∀ slot ∈ slots, slot.1 ∈ names) :
    of? names (Json.fields (Json.present slots)) = some ⟨Json.present slots⟩ := by
  have hfilter : (Json.present slots).filter (fun f => names.contains f.1) = Json.present slots :=
    List.filter_eq_self.mpr fun f hf => List.contains_iff_mem.mpr (hknown _ (Json.mem_present.mp hf))
  have hnames : ((Json.present slots).map (·.1)).Nodup := hnodup.sublist (Json.names_present_sublist slots)
  unfold of?
  rw [Json.fields?_fields]
  simp only [hfilter]
  exact if_pos hnames

variable {α : Type}

/-- A field is read as it was written, or takes its default. -/
theorem field?_present {slots : List (String × Option Json)} (hnodup : (slots.map (·.1)).Nodup) (name : String)
    (value : Option Json) (h : (name, value) ∈ slots) (decode : Json → Option α) (default : α) :
    (⟨Json.present slots⟩ : Record Json).field? name decode default = value.elim (some default) decode := by
  unfold field?
  rw [Json.lookup_present hnodup h]
  cases value <;> rfl

/-- A text that may be missing is read as it was written. -/
theorem field?_textOrNone {slots : List (String × Option Json)} (hnodup : (slots.map (·.1)).Nodup) (name : String)
    (value : Option String) (h : (name, value.map Json.text) ∈ slots) :
    (⟨Json.present slots⟩ : Record Json).field? name (Document.optional? Document.text?) none = some value := by
  rw [field?_present hnodup name _ h]
  cases value <;> rfl

/-- A map is read from its table, and from no table if it has no entry. -/
theorem field?_table {slots : List (String × Option Json)} (hnodup : (slots.map (·.1)).Nodup) (name : String)
    {encode : α → Json} {decode : Json → Option (SortedMap String α)} (m : SortedMap String α)
    (h : (name, Json.table? encode m) ∈ slots)
    (hdecode : ∀ entries, decode (.fields (entries.map fun e => (e.1, encode e.2))) = some (.ofList entries)) :
    (⟨Json.present slots⟩ : Record Json).field? name decode ∅ = some m := by
  rw [field?_present hnodup name _ h]
  unfold Json.table?
  by_cases hempty : m.isEmpty = true
  · rw [if_pos hempty, SortedMap.eq_empty_of_isEmpty hempty]
    rfl
  · rw [if_neg hempty]
    exact (hdecode m.toList).trans (congrArg some m.ofList_toList)

end Record

namespace Json

theorem optional?_of_decode {α : Type} {decode : Json → Option α} {v : Json} {a : α}
    (hv : Document.isNull v = false) (h : decode v = some a) : Document.optional? decode v = some (some a) := by
  unfold Document.optional?
  rw [hv, h]
  rfl

theorem decimalNumber?_toDigits (n : Nat) : Text.decimalNumber? (Nat.toDigits 10 n) = some n := by
  have hdigits : (Nat.toDigits 10 n).all Char.isDigit = true :=
    List.all_eq_true.mpr fun c hc => Nat.isDigit_of_mem_toDigits (by decide) (by decide) hc
  have hvalue : Text.ofDigits 10 ((Nat.toDigits 10 n).map fun c => c.toNat - '0'.toNat) = n := by
    have hcore := Nat.ofDigitChars_ten_toDigits (n := n)
    rw [Nat.ofDigitChars_eq_foldl] at hcore
    unfold Text.ofDigits
    rw [List.foldl_map]
    simpa only [Nat.mul_comm] using hcore
  rw [Text.decimalNumber?, if_pos hdigits, hvalue]

theorem integer?_nat (n : Nat) : integer? (nat n) = some (n : Int) := by
  obtain ⟨d, ds, hcons, hd⟩ := Reader.toDigits_eq_cons n
  have hnumber := decimalNumber?_toDigits n
  unfold integer? nat
  simp only [Reader.toList_toString]
  rw [hcons] at hnumber ⊢
  split
  case h_1 heq =>
    cases heq
    cases hd
  case h_2 =>
    rw [hnumber]
    rfl

theorem natBelow?_nat {limit n : Nat} (h : n < limit) : Document.natBelow? limit (nat n) = some n := by
  have hinteger : Document.integer? (nat n) = some (n : Int) := integer?_nat n
  unfold Document.natBelow?
  rw [hinteger, Option.bind_some, if_pos ⟨Int.natCast_nonneg n, Int.ofNat_lt.mpr h⟩, Int.toNat_natCast]

/-- A table of values is read entry by entry. -/
theorem mapM_table {α : Type} (encode : α → Json) (decode : Json → Option α) (h : ∀ a, decode (encode a) = some a)
    (entries : List (String × α)) :
    (entries.map fun e => (e.1, encode e.2)).mapM (fun f => (decode f.2).map (f.1, ·)) = some entries := by
  induction entries with
  | nil => rfl
  | cons e entries ih => simp [h, ih]

end Json

end ScenarioStubs
