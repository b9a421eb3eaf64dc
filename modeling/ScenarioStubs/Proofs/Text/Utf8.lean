import Mathlib.Tactic.IntervalCases
import ScenarioStubs.Proofs.Json.RoundTrip
import ScenarioStubs.Text.Utf8

/-!
# Reading back encoded texts

The machine that reads UTF-8 gives back the characters of an encoded text one by one (`symbols_encode`): the first byte
of a character tells how many are owed and which may come next (`first_two`, `first_three`, `first_four`), and the bytes
that are owed are taken one at a time (`symbolsFrom_more`, `symbolsFrom_last`). So an encoded text is read back as it
is, strictly and leniently (`decode?_encode`, `decodeLossy_encode`), and what JSON it writes can be read off its bytes
(`parseBytes?_encode`).
-/

namespace ScenarioStubs

namespace Utf8

/-! ## First bytes -/

theorem first_one {n : Nat} (h : n < 128) : first (UInt8.ofNat n) = ([some (Char.ofNat n)], none) := by
  have hmod : n % 2 ^ 8 = n := Nat.mod_eq_of_lt (by omega)
  have hlt : UInt8.ofNat n < 0x80 := by
    rw [UInt8.lt_iff_toNat_lt, UInt8.toNat_ofNat', hmod]
    exact h
  rw [first, if_pos hlt, UInt8.toNat_ofNat', hmod]

theorem first_two {n : Nat} (h : 2 ≤ n) (h' : n < 32) :
    first (UInt8.ofNat (n + 192)) = ([], some ⟨n, 1, 0x80, 0xBF⟩) := by
  interval_cases n <;> rfl

/-- After `0xE0` and `0xED` not every byte may follow: the one begins no shorter character, the other no surrogate. -/
theorem first_three {n : Nat} (h : n < 16) : first (UInt8.ofNat (n + 224)) =
    ([], some ⟨n, 2, if n = 0 then 0xA0 else 0x80, if n = 13 then 0x9F else 0xBF⟩) := by
  interval_cases n <;> rfl

/-- After `0xF0` and `0xF4` not every byte may follow: the one begins no shorter character, the other none beyond the
last. -/
theorem first_four {n : Nat} (h : n < 5) : first (UInt8.ofNat (n + 240)) =
    ([], some ⟨n, 3, if n = 0 then 0x90 else 0x80, if n = 4 then 0x8F else 0xBF⟩) := by
  interval_cases n <;> rfl

/-! ## Bytes that are owed -/

variable {n bits owed : Nat} {least greatest : UInt8} {rest : Bytes}

theorem toNat_tail (h : n < 64) : (UInt8.ofNat (n + 128)).toNat = n + 128 := by
  rw [UInt8.toNat_ofNat']
  omega

/-- A byte of six bits may follow if it is between the bounds. -/
theorem tail_between (h : n < 64) (hleast : least.toNat ≤ n + 128) (hgreatest : n + 128 ≤ greatest.toNat) :
    least ≤ UInt8.ofNat (n + 128) ∧ UInt8.ofNat (n + 128) ≤ greatest := by
  rw [UInt8.le_iff_toNat_le, UInt8.le_iff_toNat_le, toNat_tail h]
  exact ⟨hleast, hgreatest⟩

theorem tail_mod (h : n < 64) : (UInt8.ofNat (n + 128)).toNat % 0x40 = n := by
  rw [toNat_tail h]
  omega

/-- The last byte that is owed completes the character. -/
theorem symbolsFrom_last (h : n < 64) (hleast : least.toNat ≤ n + 128) (hgreatest : n + 128 ≤ greatest.toNat) :
    symbolsFrom (some ⟨bits, 1, least, greatest⟩) (UInt8.ofNat (n + 128) :: rest) =
      some (Char.ofNat (bits * 64 + n)) :: symbolsFrom none rest := by
  rw [symbolsFrom, step, if_pos (tail_between h hleast hgreatest), tail_mod h]
  rfl

/-- Any other byte that is owed adds its bits. -/
theorem symbolsFrom_more (h : n < 64) (hleast : least.toNat ≤ n + 128) (hgreatest : n + 128 ≤ greatest.toNat) :
    symbolsFrom (some ⟨bits, owed + 2, least, greatest⟩) (UInt8.ofNat (n + 128) :: rest) =
      symbolsFrom (some ⟨bits * 64 + n, owed + 1, 0x80, 0xBF⟩) rest := by
  have howed : ¬owed + 2 ≤ 1 := Nat.not_le.mpr (Nat.lt_add_left owed Nat.one_lt_two)
  rw [symbolsFrom, step, if_pos (tail_between h hleast hgreatest), tail_mod h, if_neg howed]
  rfl

/-! ## Characters -/

variable {a b c d : Nat}

theorem symbolsFrom_one (ha : a < 128) (rest : Bytes) :
    symbolsFrom none (UInt8.ofNat a :: rest) = some (Char.ofNat a) :: symbolsFrom none rest := by
  rw [symbolsFrom, step, first_one ha]
  rfl

theorem symbolsFrom_two (hleast : 2 ≤ a) (ha : a < 32) (hb : b < 64) (rest : Bytes) :
    symbolsFrom none (UInt8.ofNat (a + 192) :: UInt8.ofNat (b + 128) :: rest) =
      some (Char.ofNat (a * 64 + b)) :: symbolsFrom none rest := by
  rw [symbolsFrom, step, first_two hleast ha]
  exact symbolsFrom_last hb (Nat.le_add_left _ _) (by show _ ≤ 191; omega)

theorem symbolsFrom_three (ha : a < 16) (hb : b < 64) (hc : c < 64) (hlong : a = 0 → 32 ≤ b)
    (hsurrogate : a = 13 → b < 32) (rest : Bytes) :
    symbolsFrom none (UInt8.ofNat (a + 224) :: UInt8.ofNat (b + 128) :: UInt8.ofNat (c + 128) :: rest) =
      some (Char.ofNat ((a * 64 + b) * 64 + c)) :: symbolsFrom none rest := by
  have hleast : (if a = 0 then 0xA0 else 0x80 : UInt8).toNat ≤ b + 128 := by
    split
    · show 160 ≤ _
      omega
    · exact Nat.le_add_left _ _
  have hgreatest : b + 128 ≤ (if a = 13 then 0x9F else 0xBF : UInt8).toNat := by
    split
    · show _ ≤ 159
      omega
    · show _ ≤ 191
      omega
  rw [symbolsFrom, step, first_three ha]
  refine (symbolsFrom_more hb hleast hgreatest).trans ?_
  exact symbolsFrom_last hc (Nat.le_add_left _ _) (by show _ ≤ 191; omega)

theorem symbolsFrom_four (ha : a < 5) (hb : b < 64) (hc : c < 64) (hd : d < 64) (hlong : a = 0 → 16 ≤ b)
    (hlast : a = 4 → b < 16) (rest : Bytes) :
    symbolsFrom none
        (UInt8.ofNat (a + 240) :: UInt8.ofNat (b + 128) :: UInt8.ofNat (c + 128) :: UInt8.ofNat (d + 128) :: rest) =
      some (Char.ofNat (((a * 64 + b) * 64 + c) * 64 + d)) :: symbolsFrom none rest := by
  have hleast : (if a = 0 then 0x90 else 0x80 : UInt8).toNat ≤ b + 128 := by
    split
    · show 144 ≤ _
      omega
    · exact Nat.le_add_left _ _
  have hgreatest : b + 128 ≤ (if a = 4 then 0x8F else 0xBF : UInt8).toNat := by
    split
    · show _ ≤ 143
      omega
    · show _ ≤ 191
      omega
  rw [symbolsFrom, step, first_four ha]
  refine (symbolsFrom_more hb hleast hgreatest).trans ?_
  refine (symbolsFrom_more hc (Nat.le_add_left _ _) (by show _ ≤ 191; omega)).trans ?_
  exact symbolsFrom_last hd (Nat.le_add_left _ _) (by show _ ≤ 191; omega)

/-- **A character is read back from its bytes**, whatever comes after them. -/
theorem symbolsFrom_utf8EncodeChar (c : Char) (rest : Bytes) :
    symbolsFrom none (String.utf8EncodeChar c ++ rest) = some c :: symbolsFrom none rest := by
  have hvalid : c.toNat < 0xD800 ∨ 0xDFFF < c.toNat ∧ c.toNat < 0x110000 := c.valid
  have hread : ∀ {n}, n = c.toNat → some (Char.ofNat n) :: symbolsFrom none rest = some c :: symbolsFrom none rest :=
    fun hn => by rw [hn, Char.ofNat_toNat]
  have hc : c.val.toNat = c.toNat := rfl
  rw [String.utf8EncodeChar.eq_1, hc]
  split
  case isTrue hone => exact (symbolsFrom_one (by omega) rest).trans (hread rfl)
  case isFalse hone =>
    split
    case isTrue htwo =>
      exact (symbolsFrom_two (by omega) (by omega) (by omega) rest).trans (hread (by omega))
    case isFalse htwo =>
      split
      case isTrue hthree =>
        refine (symbolsFrom_three ?_ ?_ ?_ ?_ ?_ rest).trans (hread ?_) <;> omega
      case isFalse hthree =>
        refine (symbolsFrom_four ?_ ?_ ?_ ?_ ?_ ?_ rest).trans (hread ?_) <;> omega

/-! ## Texts -/

theorem symbolsFrom_encodeList (cs : List Char) (rest : Bytes) :
    symbolsFrom none (encodeList cs ++ rest) = cs.map some ++ symbolsFrom none rest := by
  induction cs with
  | nil => rfl
  | cons c cs ih =>
    have hbytes : encodeList (c :: cs) = String.utf8EncodeChar c ++ encodeList cs := rfl
    rw [hbytes, List.append_assoc, symbolsFrom_utf8EncodeChar, ih]
    rfl

/-- The symbols of an encoded text are its characters. -/
theorem symbols_encode (s : String) : symbols (encode s) = s.toList.map some := by
  have h := symbolsFrom_encodeList s.toList []
  rw [List.append_nil] at h
  exact h.trans (List.append_nil _)

/-- An encoded text is read back strictly. -/
theorem decode?_encode (s : String) : decode? (encode s) = some s := by
  have hall : (s.toList.map some).mapM id = some s.toList := by
    induction s.toList with
    | nil => rfl
    | cons c cs ih => simp [ih]
  rw [decode?, symbols_encode, hall, Option.map_some, String.ofList_toList]

/-- An encoded text is read back leniently. -/
theorem decodeLossy_encode (s : String) : decodeLossy (encode s) = s := by
  rw [decodeLossy, symbols_encode, List.map_map]
  exact (congrArg String.ofList (List.map_id _)).trans String.ofList_toList

/-! ## Bytes that are no text -/

/-- A byte that means nothing yet begins a character. -/
theorem first_fst_ne_nil_or (b : UInt8) : (first b).1 ≠ [] ∨ ∃ p, (first b).2 = some p := by
  unfold first
  split_ifs <;> simp

/-- A character that was begun is completed or reported as undecodable. -/
theorem symbolsFrom_some_ne_nil (p : Partial) (bytes : Bytes) : symbolsFrom (some p) bytes ≠ [] := by
  induction bytes generalizing p with
  | nil => exact List.cons_ne_nil _ _
  | cons b bs ih =>
    unfold symbolsFrom step
    dsimp only
    split
    · split
      · exact List.cons_ne_nil _ _
      · exact ih _
    · exact List.cons_ne_nil _ _

/-- Whatever is not empty is read leniently as a text that is not empty. -/
theorem decodeLossy_eq_empty_iff {bytes : Bytes} : decodeLossy bytes = "" ↔ bytes = [] := by
  constructor
  · intro h
    have hlist : (symbols bytes).map (·.getD '\uFFFD') = [] := by
      rw [← String.toList_ofList (l := (symbols bytes).map _), ← decodeLossy, h]
      rfl
    cases bytes with
    | nil => rfl
    | cons b bs =>
      have hsymbols : (first b).1 ++ symbolsFrom (first b).2 bs = [] := List.map_eq_nil_iff.mp hlist
      obtain ⟨hfirst, hrest⟩ := List.append_eq_nil_iff.mp hsymbols
      obtain hne | ⟨p, hp⟩ := first_fst_ne_nil_or b
      · exact absurd hfirst hne
      · rw [hp] at hrest
        exact absurd hrest (symbolsFrom_some_ne_nil p bs)
  · rintro rfl
    rfl

end Utf8

/-- The value that the bytes of a text write is the value that the text writes. -/
theorem Json.parseBytes?_encode (s : String) : parseBytes? (Utf8.encode s) = parse? s := by
  rw [parseBytes?, parse?, Utf8.symbols_encode]

end ScenarioStubs
