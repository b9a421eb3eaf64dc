import Mathlib.Algebra.Group.Nat.Defs
import ScenarioStubs.Uuid

/-!
# Reading back written UUIDs

The hexadecimal digits of a number name it (`hexNumber?_hexDigits`), and the hyphens between their groups are passed
over (`ofGroups?_hyphenated`), so a UUID is read back from its written form (`parse?_render`). Nothing but hyphens and
digits is written (`mem_render`).
-/

namespace ScenarioStubs

namespace Text

theorem hexDigit?_hexDigit {d : Nat} (h : d < 16) : hexDigit? (hexDigit d) = some d := by
  have hall : ∀ d < 16, hexDigit? (hexDigit d) = some d := by decide
  exact hall d h

theorem ofDigits_concat (base : Nat) (ds : List Nat) (d : Nat) :
    ofDigits base (ds ++ [d]) = ofDigits base ds * base + d := by
  unfold ofDigits
  rw [List.foldl_append]
  rfl

end Text

namespace Uuid

/-- The last digit is that of the units. -/
theorem hexDigits_succ (count n : Nat) :
    hexDigits (count + 1) n = hexDigits count (n / 16) ++ [Text.hexDigit (n % 16)] := by
  unfold hexDigits
  rw [List.range_succ, List.map_append]
  refine congr (congrArg _ (List.map_congr_left fun i hi => ?_)) ?_
  · have hlt := List.mem_range.mp hi
    have hplaces : 4 * (count + 1 - 1 - i) = 4 + 4 * (count - 1 - i) := by omega
    rw [hplaces, Nat.shiftRight_add, Nat.shiftRight_eq_div_pow n 4]
  · simp

/-- The digits of a number name it, up to those that are left out in front. -/
theorem hexNumber?_hexDigits (count n : Nat) : Text.hexNumber? (hexDigits count n) = some (n % 16 ^ count) := by
  induction count generalizing n with
  | zero => rw [Nat.pow_zero, Nat.mod_one]; rfl
  | succ count ih =>
    have hrest := ih (n / 16)
    unfold Text.hexNumber? at hrest ⊢
    obtain ⟨ds, hds, hvalue⟩ := Option.map_eq_some_iff.mp hrest
    have hlast : Text.hexDigit? (Text.hexDigit (n % 16)) = some (n % 16) :=
      Text.hexDigit?_hexDigit (Nat.mod_lt _ (by decide))
    have hmod : n / 16 % 16 ^ count * 16 + n % 16 = n % 16 ^ (count + 1) := by
      rw [Nat.pow_succ, Nat.mul_comm (16 ^ count) 16, Nat.mod_mul]
      omega
    rw [hexDigits_succ, List.mapM_append, hds]
    simp [hlast, Text.ofDigits_concat, hvalue, hmod]

/-- The groups of 32 digits between hyphens. -/
def hyphenated (digits : List Char) : List Char :=
  let group (start count : Nat) := (digits.drop start).take count
  group 0 8 ++ '-' :: group 8 4 ++ '-' :: group 12 4 ++ '-' :: group 16 4 ++ '-' :: group 20 12

theorem toList_render (u : Uuid) : u.render.toList = hyphenated (hexDigits 32 u.bits.toNat) := String.toList_ofList

theorem length_hyphenated (digit : Nat → Char) : (hyphenated ((List.range 32).map digit)).length = 36 := rfl

theorem length_hyphenated_hexDigits (n : Nat) : (hyphenated (hexDigits 32 n)).length = 36 := length_hyphenated _

/-- Hyphens between the groups are passed over. -/
theorem ofGroups?_hyphenated (digit : Nat → Char) :
    ofGroups? (hyphenated ((List.range 32).map digit)) = ofHex? ((List.range 32).map digit) := rfl

theorem mem_of_mem_hyphenated {digits : List Char} {c : Char} (h : c ∈ hyphenated digits) : c = '-' ∨ c ∈ digits := by
  have hgroup : ∀ {start count : Nat}, c ∈ (digits.drop start).take count → c ∈ digits :=
    fun hmem => List.mem_of_mem_drop (List.mem_of_mem_take hmem)
  unfold hyphenated at h
  simp only [List.mem_append, List.mem_cons] at h
  rcases h with (((h | rfl | h) | rfl | h) | rfl | h) | rfl | h
  · exact .inr (hgroup h)
  · exact .inl rfl
  · exact .inr (hgroup h)
  · exact .inl rfl
  · exact .inr (hgroup h)
  · exact .inl rfl
  · exact .inr (hgroup h)
  · exact .inl rfl
  · exact .inr (hgroup h)

/-- A written UUID consists of hyphens and hexadecimal digits. -/
theorem mem_render {u : Uuid} {c : Char} (h : c ∈ u.render.toList) : c = '-' ∨ ∃ d < 16, c = Text.hexDigit d := by
  rw [toList_render] at h
  obtain rfl | h := mem_of_mem_hyphenated h
  · exact .inl rfl
  · obtain ⟨i, -, rfl⟩ := List.mem_map.mp h
    exact .inr ⟨_, Nat.mod_lt _ (by decide), rfl⟩

/-- What holds of the hyphen and of every digit holds of every character of a written UUID. -/
theorem forall_mem_render {p : Char → Prop} (hhyphen : p '-') (hdigit : ∀ d < 16, p (Text.hexDigit d)) (u : Uuid) :
    ∀ c ∈ u.render.toList, p c := by
  intro c hc
  rcases mem_render hc with rfl | ⟨d, hd, rfl⟩
  · exact hhyphen
  · exact hdigit d hd

theorem render_ne_empty (u : Uuid) : u.render ≠ "" := by
  intro h
  have hlength := congrArg (fun s : String => s.toList.length) h
  rw [toList_render, length_hyphenated_hexDigits] at hlength
  cases hlength

/-- A UUID is read back from its written form. -/
theorem parse?_render (u : Uuid) : parse? u.render = some u := by
  have hbits : u.bits.toNat < 16 ^ 32 := u.bits.isLt
  have hnumber : Text.hexNumber? (hexDigits 32 u.bits.toNat) = some u.bits.toNat := by
    rw [hexNumber?_hexDigits, Nat.mod_eq_of_lt hbits]
  have hlength := length_hyphenated_hexDigits u.bits.toNat
  have hgroups : ofGroups? (hyphenated (hexDigits 32 u.bits.toNat)) = ofHex? (hexDigits 32 u.bits.toNat) :=
    ofGroups?_hyphenated _
  have hdigits : (hexDigits 32 u.bits.toNat).length = 32 := by simp [hexDigits]
  unfold parse?
  simp only [toList_render, hlength]
  rw [if_neg (by decide), if_pos trivial, hgroups, ofHex?, if_pos hdigits, hnumber, Option.map_some, BitVec.ofNat_toNat,
    BitVec.setWidth_eq]

end Uuid

end ScenarioStubs
