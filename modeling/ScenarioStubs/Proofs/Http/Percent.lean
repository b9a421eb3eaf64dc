import ScenarioStubs.Http.Percent
import ScenarioStubs.Proofs.Text.Utf8
import ScenarioStubs.Proofs.Uuid

/-!
# Reading percent-encoded names

A name may be percent-encoded in many ways: any byte as a percent sign with two hexadecimal digits in either case, and a
character that has no other meaning in a path as itself (`Percent.Encodes`). Every way of writing it is read back as the
name (`decode?_of_encodes`). What is written has neither a slash nor a question mark (`Encodes.not_mem`).
-/

namespace ScenarioStubs.Percent

/-- The character is a digit for a number below sixteen, in either case. -/
def IsDigit (d : Nat) (c : Char) : Prop := d < 16 ∧ (c = Text.hexDigit d ∨ c = (Text.hexDigit d).toUpper)

instance (d : Nat) (c : Char) : Decidable (IsDigit d c) := inferInstanceAs (Decidable (_ ∧ _))

/-- A letter or digit of ASCII, or one of the four signs that have no meaning of their own in a path. -/
def IsUnreserved (c : Char) : Prop := c.isAlphanum = true ∨ c ∈ ['-', '.', '_', '~']

instance (c : Char) : Decidable (IsUnreserved c) := inferInstanceAs (Decidable (_ ∨ _))

/-- The characters write the bytes, each of them as an escape or as itself. -/
inductive Encodes : List Char → Bytes → Prop
  | nil : Encodes [] []
  | escape {b : UInt8} {hi lo : Char} {cs : List Char} {bytes : Bytes} (hhi : IsDigit (b.toNat / 16) hi)
    (hlo : IsDigit (b.toNat % 16) lo) (h : Encodes cs bytes) : Encodes ('%' :: hi :: lo :: cs) (b :: bytes)
  | literal {c : Char} {cs : List Char} {bytes : Bytes} (hc : IsUnreserved c) (h : Encodes cs bytes) :
    Encodes (c :: cs) (c.toNat.toUInt8 :: bytes)

/-! ## Characters of one byte -/

theorem toNat_lt_of_isAlphanum {c : Char} (h : c.isAlphanum = true) : c.toNat < 128 := by
  have hbound : ∀ greatest : UInt32, c.val ≤ greatest → greatest.toNat < 128 → c.toNat < 128 :=
    fun _ hle hgreatest => Nat.lt_of_le_of_lt (UInt32.le_iff_toNat_le.mp hle) hgreatest
  rcases Bool.or_eq_true_iff.mp h with hletter | hdigit
  · rcases Bool.or_eq_true_iff.mp hletter with hupper | hlower
    · exact hbound 'Z'.val (of_decide_eq_true hupper).2 (by decide)
    · exact hbound 'z'.val (of_decide_eq_true (Bool.and_eq_true_iff.mp hlower).2) (by decide)
  · exact hbound '9'.val (of_decide_eq_true (Bool.and_eq_true_iff.mp hdigit).2) (by decide)

theorem IsUnreserved.toNat_lt {c : Char} (h : IsUnreserved c) : c.toNat < 128 := by
  rcases h with h | h
  · exact toNat_lt_of_isAlphanum h
  · simp only [List.mem_cons, List.not_mem_nil, or_false] at h
    rcases h with rfl | rfl | rfl | rfl <;> decide

theorem IsUnreserved.ne {c d : Char} (h : IsUnreserved c) (hd : ¬IsUnreserved d) : c ≠ d := fun heq => hd (heq ▸ h)

theorem IsDigit.isUnreserved {d : Nat} {c : Char} (h : IsDigit d c) : IsUnreserved c := by
  have hall : ∀ d < 16, IsUnreserved (Text.hexDigit d) ∧ IsUnreserved (Text.hexDigit d).toUpper := by decide
  obtain ⟨hd, rfl | rfl⟩ := h
  · exact (hall d hd).1
  · exact (hall d hd).2

theorem IsDigit.hexDigit? {d : Nat} {c : Char} (h : IsDigit d c) : Text.hexDigit? c = some d := by
  have hall : ∀ d < 16, Text.hexDigit? (Text.hexDigit d).toUpper = some d := by decide
  obtain ⟨hd, rfl | rfl⟩ := h
  · exact Text.hexDigit?_hexDigit hd
  · exact hall d hd

theorem utf8EncodeChar_of_lt {c : Char} (h : c.toNat < 128) : String.utf8EncodeChar c = [c.toNat.toUInt8] := by
  rw [String.utf8EncodeChar.eq_1]
  exact if_pos (Nat.le_of_lt_succ h)

theorem ofNat_toNat_byte {c : Char} (h : c.toNat < 128) : Char.ofNat c.toNat.toUInt8.toNat = c := by
  have hbyte : c.toNat.toUInt8.toNat = c.toNat := by
    rw [Nat.toUInt8_eq, UInt8.toNat_ofNat']
    omega
  rw [hbyte, Char.ofNat_toNat]

/-! ## Decoding -/

theorem decodeBytes_of_ne {b : UInt8} (h : b ≠ 0x25) (rest : Bytes) :
    decodeBytes (b :: rest) = b :: decodeBytes rest := by
  rw [decodeBytes]
  exact fun _ _ _ heq => absurd heq h

/-- An escape is read as the byte that its digits name. -/
theorem decodeBytes_escape {b : UInt8} {hi lo : Char} (hhi : IsDigit (b.toNat / 16) hi)
    (hlo : IsDigit (b.toNat % 16) lo) (rest : Bytes) :
    decodeBytes (0x25 :: hi.toNat.toUInt8 :: lo.toNat.toUInt8 :: rest) = b :: decodeBytes rest := by
  have hnumber : Text.hexNumber? [hi, lo] = some b.toNat := by
    have hvalue : Text.ofDigits 16 [b.toNat / 16, b.toNat % 16] = b.toNat := by
      show (0 * 16 + b.toNat / 16) * 16 + b.toNat % 16 = b.toNat
      omega
    simp [Text.hexNumber?, hhi.hexDigit?, hlo.hexDigit?, hvalue]
  rw [decodeBytes, ofNat_toNat_byte hhi.isUnreserved.toNat_lt, ofNat_toNat_byte hlo.isUnreserved.toNat_lt, hnumber]
  simp

theorem encodeList_cons_of_lt {c : Char} (h : c.toNat < 128) (cs : List Char) :
    Utf8.encodeList (c :: cs) = c.toNat.toUInt8 :: Utf8.encodeList cs := by
  have hbytes : Utf8.encodeList (c :: cs) = String.utf8EncodeChar c ++ Utf8.encodeList cs := rfl
  rw [hbytes, utf8EncodeChar_of_lt h]
  rfl

namespace Encodes

variable {cs : List Char} {bytes : Bytes}

theorem decodeBytes_eq (h : Encodes cs bytes) : decodeBytes (Utf8.encodeList cs) = bytes := by
  induction h with
  | nil => rfl
  | escape hhi hlo _ ih =>
    have hpercent : '%'.toNat < 128 := by decide
    rw [encodeList_cons_of_lt hpercent, encodeList_cons_of_lt hhi.isUnreserved.toNat_lt,
      encodeList_cons_of_lt hlo.isUnreserved.toNat_lt]
    exact (decodeBytes_escape hhi hlo _).trans (congrArg _ ih)
  | @literal c cs _ hc _ ih =>
    have hne : c.toNat.toUInt8 ≠ 0x25 := fun heq => by
      have hchar := congrArg (fun b : UInt8 => Char.ofNat b.toNat) heq
      rw [ofNat_toNat_byte hc.toNat_lt] at hchar
      exact hc.ne (by decide) hchar
    rw [encodeList_cons_of_lt hc.toNat_lt, decodeBytes_of_ne hne, ih]

/-- Only percent signs and characters without a meaning of their own are written. -/
theorem not_mem (h : Encodes cs bytes) {c : Char} (hc : ¬IsUnreserved c) (hpercent : c ≠ '%') : c ∉ cs := by
  induction h with
  | nil => exact List.not_mem_nil
  | escape hhi hlo _ ih =>
    intro hmem
    rcases List.mem_cons.mp hmem with rfl | hmem
    · exact hpercent rfl
    rcases List.mem_cons.mp hmem with rfl | hmem
    · exact hc hhi.isUnreserved
    rcases List.mem_cons.mp hmem with rfl | hmem
    · exact hc hlo.isUnreserved
    · exact ih hmem
  | literal hunreserved _ ih =>
    intro hmem
    rcases List.mem_cons.mp hmem with rfl | hmem
    · exact hc hunreserved
    · exact ih hmem

theorem ne_nil (h : Encodes cs bytes) (hbytes : bytes ≠ []) : cs ≠ [] := by
  cases h with
  | nil => exact absurd rfl hbytes
  | escape | literal => exact List.cons_ne_nil _ _

end Encodes

/-- **An encoded name is read back**, however it was encoded. -/
theorem decode?_of_encodes {cs : List Char} {name : String} (h : Encodes cs (Utf8.encode name)) :
    decode? (String.ofList cs) = some name := by
  have hbytes : Utf8.encode (String.ofList cs) = Utf8.encodeList cs := congrArg Utf8.encodeList String.toList_ofList
  rw [decode?, hbytes, h.decodeBytes_eq, Utf8.decode?_encode]

end ScenarioStubs.Percent
