import ScenarioStubs.Json.Document
import ScenarioStubs.Json.Printer
import ScenarioStubs.Json.Reader

/-!
# Reading back what was written

Values whose strings are texts and whose numbers are natural (`Json.Plain`) are read back from their text as they are
(`parse?_render`). The parts:

- a number is read as its digits (`number?_digits`);
- a string literal is read as the pieces of its characters (`pieces?_write`), which denote them (`denote_pieces`);
- a value in front of a text that does not go on with a number is read up to that text (`Reads`), if its items or its
  fields are (`Reads.array`, `Reads.object`).
-/

namespace ScenarioStubs.Json

/-- Values of which every string is a text and every number natural. -/
inductive Plain : Json → Prop
  | null : Plain .null
  | bool (b : Bool) : Plain (.bool b)
  | nat (n : Nat) : Plain (.nat n)
  | text (s : String) : Plain (.text s)
  | array {items : List Json} (h : ∀ v ∈ items, Plain v) : Plain (.array items)
  | fields {fs : List (String × Json)} (h : ∀ f ∈ fs, Plain f.2) : Plain (.fields fs)

namespace Reader

open Utf8 (Symbol)

/-- The symbols of a text. -/
def symbols (cs : List Char) : List Symbol := cs.map some

@[simp] theorem symbols_cons (c : Char) (cs : List Char) : symbols (c :: cs) = some c :: symbols cs := rfl

@[simp] theorem symbols_nil : symbols [] = [] := rfl

/-! ## Numbers -/

/-- The text does not go on with a number. -/
def EndsNumber (rest : List Char) : Prop :=
  ∀ c ∈ rest.head?, c.isDigit = false ∧ c ≠ '.' ∧ c ≠ 'e' ∧ c ≠ 'E'

theorem spanDigits_append {ds rest : List Char} (hds : ∀ c ∈ ds, c.isDigit = true)
    (hrest : ∀ c ∈ rest.head?, c.isDigit = false) :
    spanDigits (symbols (ds ++ rest)) = (ds, symbols rest) := by
  induction ds with
  | nil =>
    cases rest with
    | nil => rfl
    | cons c rest =>
      have hc : c.isDigit = false := hrest c rfl
      simp [spanDigits, hc]
  | cons d ds ih =>
    have hd : d.isDigit = true := hds d List.mem_cons_self
    have hrest := ih fun c hc => hds c (List.mem_cons_of_mem d hc)
    simp [spanDigits, hd, hrest]

/-- The digits of a number begin with a zero only if there is no other. -/
theorem toDigits_head (n : Nat) : Nat.toDigits 10 n = ['0'] ∨ ∃ d ds, Nat.toDigits 10 n = d :: ds ∧ d ≠ '0' := by
  induction n using Nat.strongRecOn with
  | ind n ih =>
    by_cases h : n < 10
    · rw [Nat.toDigits_of_lt_base h]
      by_cases hzero : n = 0
      · exact .inl (by rw [hzero]; rfl)
      · exact .inr ⟨n.digitChar, [], rfl, fun heq => hzero (Nat.digitChar_eq_zero.mp heq)⟩
    · rw [Nat.toDigits_of_base_le (by decide) (Nat.le_of_not_lt h)]
      obtain hzero | ⟨d, ds, heq, hd⟩ := ih (n / 10) (by omega)
      · have hlong := congrArg (Nat.ofDigitChars 10 · 0) hzero
        simp only [Nat.ofDigitChars_ten_toDigits] at hlong
        have hsmall : n / 10 = 0 := hlong
        omega
      · exact .inr ⟨d, ds ++ [(n % 10).digitChar], by rw [heq]; rfl, hd⟩

theorem toDigits_eq_cons (n : Nat) : ∃ d ds, Nat.toDigits 10 n = d :: ds ∧ d.isDigit = true := by
  obtain ⟨d, ds, hcons⟩ := List.exists_cons_of_ne_nil (Nat.toDigits_ne_nil (n := n) (b := 10))
  have hd : d ∈ Nat.toDigits 10 n := by rw [hcons]; exact List.mem_cons_self
  exact ⟨d, ds, hcons, Nat.isDigit_of_mem_toDigits (by decide) (by decide) hd⟩

theorem toList_toString (n : Nat) : (toString n).toList = Nat.toDigits 10 n := by
  rw [Nat.toString_eq_repr, Nat.toList_repr]

theorem whole?_digits (n : Nat) {rest : List Char} (hrest : ∀ c ∈ rest.head?, c.isDigit = false) :
    whole? (symbols (Nat.toDigits 10 n ++ rest)) = some (Nat.toDigits 10 n, symbols rest) := by
  have hdigits : ∀ c ∈ Nat.toDigits 10 n, c.isDigit = true := fun c hc =>
    Nat.isDigit_of_mem_toDigits (by decide) (by decide) hc
  have hspan := spanDigits_append hdigits hrest
  obtain hzero | ⟨d, ds, heq, hd⟩ := toDigits_head n
  · rw [hzero]
    rfl
  · rw [heq] at hspan ⊢
    unfold whole?
    simp only [List.cons_append, symbols_cons] at hspan ⊢
    split
    case h_1 hzero =>
      cases hzero
      exact absurd rfl hd
    case h_2 => rw [digits?, hspan]

theorem fraction?_of_ends {rest : List Char} (h : EndsNumber rest) :
    fraction? (symbols rest) = some ([], symbols rest) := by
  unfold fraction?
  split
  case h_1 input hdot =>
    cases rest with
    | nil => cases hdot
    | cons c rest =>
      cases hdot
      exact absurd rfl (h '.' rfl).2.1
  case h_2 => rfl

theorem exponent?_of_ends {rest : List Char} (h : EndsNumber rest) :
    exponent? (symbols rest) = some ([], symbols rest) := by
  cases rest with
  | nil => rfl
  | cons c rest =>
    obtain ⟨-, -, he, hE⟩ := h c rfl
    simp [exponent?, he, hE]

/-- A natural number is read as its digits. -/
theorem number?_digits (n : Nat) {rest : List Char} (hrest : EndsNumber rest) :
    number? (symbols (Nat.toDigits 10 n ++ rest)) = some (.nat n, symbols rest) := by
  have hmagnitude : magnitude? (symbols (Nat.toDigits 10 n ++ rest)) = some (Nat.toDigits 10 n, symbols rest) := by
    unfold magnitude?
    rw [whole?_digits n fun c hc => (hrest c hc).1]
    simp [fraction?_of_ends hrest, exponent?_of_ends hrest]
  unfold number?
  split
  case h_1 input hminus =>
    -- A sign is no digit.
    obtain ⟨d, ds, hcons, hd⟩ := toDigits_eq_cons n
    rw [hcons] at hminus
    cases hminus
    cases hd
  case h_2 =>
    rw [hmagnitude, Option.map_some]
    simp only [nat, Nat.toString_eq_ofList_toDigits]

/-! ## Strings -/

/-- The piece that a written character is read as. -/
def pieceOf (c : Char) : Piece :=
  if c < ' ' ∧ c ≠ '\x08' ∧ c ≠ '\x0C' ∧ c ≠ '\n' ∧ c ≠ '\r' ∧ c ≠ '\t' then .unit c.toNat else .char c

/-- A control character is written by four digits that name it. -/
theorem hexNumber?_control {c : Char} (h : c < ' ') :
    Text.hexNumber? ['0', '0', Text.hexDigit (c.toNat / 16), Text.hexDigit (c.toNat % 16)] = some c.toNat := by
  have hlt : c.toNat < 32 := h
  have hall : ∀ n < 32, Text.hexNumber? ['0', '0', Text.hexDigit (n / 16), Text.hexDigit (n % 16)] = some n := by decide
  exact hall c.toNat hlt

theorem pieces?_writeChar (found : List Piece) (c : Char) (rest : List Char) :
    pieces? found (symbols (writeChar c rest)) = pieces? (pieceOf c :: found) (symbols rest) := by
  by_cases hletter : c ∈ ['"', '\\', '\x08', '\x0C', '\n', '\r', '\t']
  · simp only [List.mem_cons, List.not_mem_nil, or_false] at hletter
    obtain rfl | rfl | rfl | rfl | rfl | rfl | rfl := hletter <;> rfl
  · simp only [List.mem_cons, List.not_mem_nil, or_false, not_or] at hletter
    obtain ⟨hquote, hbackslash, hb, hf, hn, hr, ht⟩ := hletter
    simp only [writeChar, hquote, hbackslash, hb, hf, hn, hr, ht, if_false]
    by_cases hcontrol : c < ' '
    · have hpiece : pieceOf c = .unit c.toNat := if_pos ⟨hcontrol, hb, hf, hn, hr, ht⟩
      simp only [hcontrol, if_true, symbols_cons, pieces?, hexNumber?_control hcontrol, hpiece]
    · have hpiece : pieceOf c = .char c := if_neg fun h => hcontrol h.1
      simp [pieces?, hbackslash, hcontrol, hpiece]

/-- A string literal is read as the pieces of its characters. -/
theorem pieces?_write (cs : List Char) (found : List Piece) (rest : List Char) :
    pieces? found (symbols (cs.foldr writeChar ('"' :: rest))) =
      some (found.reverse ++ cs.map pieceOf, symbols rest) := by
  induction cs generalizing found with
  | nil => simp [pieces?]
  | cons c cs ih => rw [List.foldr_cons, pieces?_writeChar, ih, List.reverse_cons, List.append_assoc]; rfl

theorem denote_unit {n : Nat} (h : n < 0xD800) (found : List Char) (rest : List Piece) :
    denote found (.unit n :: rest) = denote (Char.ofNat n :: found) rest := by
  have hhigh : isHighSurrogate n = false := by simp [isHighSurrogate]; omega
  have hlow : isLowSurrogate n = false := by simp [isLowSurrogate]; omega
  cases rest with
  | nil => simp [denote, hhigh, hlow]
  | cons p rest => cases p <;> simp [denote, hhigh, hlow]

/-- The pieces of characters denote them. -/
theorem denote_pieces (cs found : List Char) : denote found (cs.map pieceOf) = some (found.reverse ++ cs) := by
  induction cs generalizing found with
  | nil => simp [denote]
  | cons c cs ih =>
    have hstep : denote found (pieceOf c :: cs.map pieceOf) = denote (c :: found) (cs.map pieceOf) := by
      unfold pieceOf
      split
      case isTrue h =>
        have hlt : c.toNat < 32 := h.1
        rw [denote_unit (by omega), Char.ofNat_toNat]
      case isFalse => rw [denote]
    rw [List.map_cons, hstep, ih, List.reverse_cons, List.append_assoc]
    rfl

/-- A string literal is read as the text that it was written for. -/
theorem stringTail?_write (s : String) (rest : List Char) :
    stringTail? (symbols (s.toList.foldr writeChar ('"' :: rest))) = some (some s, symbols rest) := by
  unfold stringTail?
  rw [pieces?_write]
  simp [denote_pieces]

theorem length_writeChar (c : Char) (rest : List Char) : rest.length < (writeChar c rest).length := by
  unfold writeChar
  repeat' split
  all_goals simp only [List.length_cons]; omega

theorem length_foldr_writeChar (cs rest : List Char) : rest.length ≤ (cs.foldr writeChar rest).length := by
  induction cs with
  | nil => exact Nat.le_refl _
  | cons c cs ih => exact Nat.le_trans ih (Nat.le_of_lt (length_writeChar c _))

/-! ## Values -/

/-- The value is read back from its text in front of any text that does not go on with a number. The text of the value
has at least one character, and begins as no blank and no closing bracket does. -/
structure Reads (v : Json) : Prop where
  longer : ∀ rest, rest.length < (write v rest).length
  opens : ∀ rest, ∃ c cs, write v rest = c :: cs ∧ isBlank c = false ∧ c ≠ ']'
  reads : ∀ bound rest, EndsNumber rest → 2 * (write v rest).length ≤ bound + 2 * rest.length →
    value? bound (symbols (write v rest)) = some (v, symbols rest)

namespace Reads

variable {v : Json}

theorem skipBlanks_symbols {c : Char} (cs : List Char) (hc : isBlank c = false) :
    skipBlanks (symbols (c :: cs)) = symbols (c :: cs) := by
  simp [skipBlanks, hc]

/-- Some bound is left to begin with. -/
theorem of_succ (longer : ∀ rest, rest.length < (write v rest).length)
    (opens : ∀ rest, ∃ c cs, write v rest = c :: cs ∧ isBlank c = false ∧ c ≠ ']')
    (reads : ∀ bound rest, EndsNumber rest → 2 * (write v rest).length ≤ bound + 1 + 2 * rest.length →
      value? (bound + 1) (symbols (write v rest)) = some (v, symbols rest)) : Reads v where
  longer := longer
  opens := opens
  reads bound rest hrest hbound := by
    cases bound with
    | zero =>
      have hlonger := longer rest
      omega
    | succ bound => exact reads bound rest hrest hbound

theorem null : Reads .null :=
  of_succ (fun rest => by simp only [write, List.length_cons]; omega) (fun rest => ⟨'n', _, rfl, by decide, by decide⟩)
    fun _ _ _ _ => rfl

theorem bool (b : Bool) : Reads (.bool b) := by
  cases b with
  | true =>
    exact of_succ (fun rest => by simp only [write, List.length_cons]; omega)
      (fun rest => ⟨'t', _, rfl, by decide, by decide⟩) fun _ _ _ _ => rfl
  | false =>
    exact of_succ (fun rest => by simp only [write, List.length_cons]; omega)
      (fun rest => ⟨'f', _, rfl, by decide, by decide⟩) fun _ _ _ _ => rfl

theorem length_writeString (s : String) (rest : List Char) : rest.length < (writeString (some s) rest).length := by
  have hfoldr := length_foldr_writeChar s.toList ('"' :: rest)
  simp only [writeString, List.length_cons] at hfoldr ⊢
  omega

theorem text (s : String) : Reads (.text s) := by
  refine of_succ (fun rest => length_writeString s rest) (fun rest => ⟨'"', _, rfl, by decide, by decide⟩)
    fun bound rest _ _ => ?_
  show (stringTail? (symbols (s.toList.foldr writeChar ('"' :: rest)))).map _ = _
  rw [stringTail?_write]
  rfl

theorem not_isBlank_of_isDigit {d : Char} (hd : d.isDigit = true) : isBlank d = false := by
  rw [← Bool.not_eq_true]
  intro hblank
  simp only [isBlank, Bool.or_eq_true, beq_iff_eq] at hblank
  obtain ((rfl | rfl) | rfl) | rfl := hblank <;> cases hd

theorem nat (n : Nat) : Reads (.nat n) := by
  obtain ⟨d, ds, hcons, hd⟩ := toDigits_eq_cons n
  have hwrite : ∀ rest, write (.nat n) rest = d :: ds ++ rest := fun rest => by
    rw [Json.nat, write, toList_toString, hcons]
  have hblank := not_isBlank_of_isDigit hd
  refine of_succ (fun rest => ?_) (fun rest => ⟨d, _, hwrite rest, hblank, fun h => ?_⟩) fun bound rest hrest _ => ?_
  · rw [hwrite, List.length_append, List.length_cons]
    omega
  · rw [h] at hd
    cases hd
  · have hnumber := number?_digits n hrest
    rw [hcons] at hnumber
    rw [hwrite, value?, List.cons_append, skipBlanks_symbols _ hblank]
    -- A digit opens no other kind of value.
    split
    case h_7 => exact hnumber
    all_goals
      rename_i heq
      cases (List.cons.inj heq).1
      cases hd

theorem endsNumber_writeItems (vs : List Json) (rest : List Char) : EndsNumber (writeItems vs rest) := by
  intro c hc
  cases vs <;> (cases hc; decide)

theorem length_writeItems {vs : List Json} (h : ∀ v ∈ vs, Reads v) (rest : List Char) :
    rest.length < (writeItems vs rest).length := by
  induction vs with
  | nil => exact Nat.lt_succ_self _
  | cons v vs ih =>
    have hv := (h v List.mem_cons_self).longer (writeItems vs rest)
    have hvs := ih fun w hw => h w (List.mem_cons_of_mem v hw)
    simp only [writeItems, List.length_cons]
    omega

/-- The items of an array are read one after the other. -/
theorem items {vs : List Json} (hvs : ∀ w ∈ vs, Reads w) (hv : Reads v) (bound : Nat) (found : List Json)
    (rest : List Char) (hbound : 2 * (write v (writeItems vs rest)).length < bound + 2 * rest.length) :
    items? bound found (symbols (write v (writeItems vs rest))) =
      some (.array (found.reverse ++ v :: vs), symbols rest) := by
  induction vs generalizing v bound found with
  | nil =>
    have hlonger := hv.longer (writeItems [] rest)
    have hrest := length_writeItems hvs rest
    obtain _ | bound := bound
    · omega
    · rw [items?, hv.reads bound _ (endsNumber_writeItems [] rest) (by omega)]
      simp [writeItems, skipBlanks, isBlank]
  | cons w vs ih =>
    have hlonger := hv.longer (writeItems (w :: vs) rest)
    have hrest := length_writeItems hvs rest
    obtain _ | bound := bound
    · omega
    · rw [items?, hv.reads bound _ (endsNumber_writeItems (w :: vs) rest) (by omega)]
      have htail := ih (fun x hx => hvs x (List.mem_cons_of_mem w hx)) (hvs w List.mem_cons_self) bound (v :: found)
        (by simp only [writeItems, List.length_cons] at *; omega)
      simp [writeItems, skipBlanks, isBlank, htail]

theorem array {vs : List Json} (h : ∀ v ∈ vs, Reads v) : Reads (.array vs) := by
  cases vs with
  | nil =>
    exact of_succ (fun rest => by simp only [write, List.length_cons]; omega)
      (fun rest => ⟨'[', _, rfl, by decide, by decide⟩) fun _ _ _ _ => rfl
  | cons v vs =>
    have hv := h v List.mem_cons_self
    have hvs : ∀ w ∈ vs, Reads w := fun w hw => h w (List.mem_cons_of_mem v hw)
    refine of_succ (fun rest => ?_) (fun rest => ⟨'[', _, rfl, by decide, by decide⟩) fun bound rest _ hbound => ?_
    · have hlonger := hv.longer (writeItems vs rest)
      have hitems := length_writeItems hvs rest
      simp only [write, List.length_cons]
      omega
    · simp only [write, List.length_cons] at hbound
      have hitems := items hvs hv bound [] rest (by omega)
      obtain ⟨c, cs, hcons, hblank, hc⟩ := hv.opens (writeItems vs rest)
      rw [hcons] at hitems
      rw [write, hcons, value?, skipBlanks_symbols _ (by decide)]
      simp only [symbols_cons]
      rw [← symbols_cons, skipBlanks_symbols _ hblank]
      split
      case h_1 heq =>
        cases (List.cons.inj heq).1
        exact absurd rfl hc
      case h_2 => exact hitems

/-- The fields of an object as they are written. -/
def named (fs : List (String × Json)) : List (Option String × Json) := fs.map fun f => (some f.1, f.2)

theorem length_writeFields {fs : List (String × Json)} (h : ∀ f ∈ fs, Reads f.2) (rest : List Char) :
    rest.length < (writeFields (named fs) rest).length := by
  induction fs with
  | nil => exact Nat.lt_succ_self _
  | cons f fs ih =>
    have hfs := ih fun g hg => h g (List.mem_cons_of_mem f hg)
    have hv := (h f List.mem_cons_self).longer (writeFields (named fs) rest)
    have hname := length_writeString f.1 (':' :: write f.2 (writeFields (named fs) rest))
    simp only [named, List.map_cons, writeFields, List.length_cons] at *
    omega

/-- The last field of an object is read up to the closing brace. -/
theorem lastField (hv : Reads v) (name : String) (bound : Nat) (found : List (Option String × Json)) (rest : List Char)
    (hbound : 2 * (write v ('\x7d' :: rest)).length ≤ bound + 2 * (rest.length + 1)) :
    fields? (bound + 1) found (symbols (writeString (some name) (':' :: write v ('\x7d' :: rest)))) =
      some (.object (found.reverse ++ [(some name, v)]), symbols rest) := by
  have hreads := hv.reads bound ('\x7d' :: rest) (fun c hc => by cases hc; decide) hbound
  have hname := stringTail?_write name (':' :: write v ('\x7d' :: rest))
  simp [fields?, writeString, skipBlanks, isBlank, hname, hreads]

/-- A field in front of a comma is read, and those after it are read next. -/
theorem nextField (hv : Reads v) (name : String) (bound : Nat) (found : List (Option String × Json)) (rest : List Char)
    (hbound : 2 * (write v (',' :: rest)).length ≤ bound + 2 * (rest.length + 1)) :
    fields? (bound + 1) found (symbols (writeString (some name) (':' :: write v (',' :: rest)))) =
      fields? bound ((some name, v) :: found) (symbols rest) := by
  have hreads := hv.reads bound (',' :: rest) (fun c hc => by cases hc; decide) hbound
  have hname := stringTail?_write name (':' :: write v (',' :: rest))
  simp [fields?, writeString, skipBlanks, isBlank, hname, hreads]

/-- The fields of an object are read one after the other. -/
theorem fields {fs : List (String × Json)} (hfs : ∀ g ∈ fs, Reads g.2) (name : String) (hv : Reads v) (bound : Nat)
    (found : List (Option String × Json)) (rest : List Char)
    (hbound : 2 * (write v (writeFields (named fs) rest)).length < bound + 2 * rest.length) :
    fields? bound found (symbols (writeString (some name) (':' :: write v (writeFields (named fs) rest)))) =
      some (.object (found.reverse ++ (some name, v) :: named fs), symbols rest) := by
  induction fs generalizing v name bound found with
  | nil =>
    have hwrite : writeFields (named []) rest = '\x7d' :: rest := rfl
    rw [hwrite] at hbound ⊢
    have hlonger := hv.longer ('\x7d' :: rest)
    rw [List.length_cons] at hlonger
    obtain _ | bound := bound
    · omega
    · exact hv.lastField name bound found rest (by omega)
  | cons g fs ih =>
    have hlater : ∀ x ∈ fs, Reads x.2 := fun x hx => hfs x (List.mem_cons_of_mem g hx)
    have hwrite : writeFields (named (g :: fs)) rest =
        ',' :: writeString (some g.1) (':' :: write g.2 (writeFields (named fs) rest)) := rfl
    rw [hwrite] at hbound ⊢
    have hlonger := hv.longer (',' :: writeString (some g.1) (':' :: write g.2 (writeFields (named fs) rest)))
    have hname := length_writeString g.1 (':' :: write g.2 (writeFields (named fs) rest))
    have hvalue := (hfs g List.mem_cons_self).longer (writeFields (named fs) rest)
    have hrest := length_writeFields hlater rest
    simp only [List.length_cons] at hlonger hname
    obtain _ | bound := bound
    · omega
    · rw [hv.nextField name bound found _ (by omega),
        ih hlater g.1 (hfs g List.mem_cons_self) bound ((some name, v) :: found) (by omega)]
      simp [named]

theorem object {fs : List (String × Json)} (h : ∀ f ∈ fs, Reads f.2) : Reads (.fields fs) := by
  cases fs with
  | nil =>
    exact of_succ (fun rest => by simp only [Json.fields, List.map_nil, write, List.length_cons]; omega)
      (fun rest => ⟨'\x7b', _, rfl, by decide, by decide⟩) fun _ _ _ _ => rfl
  | cons f fs =>
    have hv := h f List.mem_cons_self
    have hfs : ∀ g ∈ fs, Reads g.2 := fun g hg => h g (List.mem_cons_of_mem f hg)
    have hwrite : ∀ rest, write (.fields (f :: fs)) rest =
        '\x7b' :: writeString (some f.1) (':' :: write f.2 (writeFields (named fs) rest)) := fun _ => rfl
    refine of_succ (fun rest => ?_) (fun rest => ⟨'\x7b', _, hwrite rest, by decide, by decide⟩)
      fun bound rest _ hbound => ?_
    · have hlonger := hv.longer (writeFields (named fs) rest)
      have hname := length_writeString f.1 (':' :: write f.2 (writeFields (named fs) rest))
      have hfields := length_writeFields hfs rest
      simp only [hwrite, List.length_cons] at hname ⊢
      omega
    · have hname := length_writeString f.1 (':' :: write f.2 (writeFields (named fs) rest))
      simp only [hwrite, List.length_cons] at hname hbound
      have hfields := fields hfs f.1 hv bound [] rest (by omega)
      rw [hwrite, value?, skipBlanks_symbols _ (by decide)]
      simp only [symbols_cons, writeString] at hfields ⊢
      rw [← symbols_cons, skipBlanks_symbols _ (by decide)]
      exact hfields

end Reads

theorem reads_of_plain {v : Json} (h : v.Plain) : Reads v := by
  induction h with
  | null => exact .null
  | bool b => exact .bool b
  | nat n => exact .nat n
  | text s => exact .text s
  | array _ ih => exact .array ih
  | fields _ ih => exact .object ih

end Reader

/-- **Reading back.** A plain value is read back from its text. -/
theorem parse?_render {v : Json} (h : v.Plain) : parse? v.render = some v := by
  have hreads := (Reader.reads_of_plain h).reads (2 * (write v []).length + 1) [] (fun c hc => by cases hc) (by omega)
  unfold parse? ofSymbols? render
  rw [String.toList_ofList, List.length_map]
  have hreads : Reader.value? (2 * (write v []).length + 1) ((write v []).map some) = some (v, []) := hreads
  rw [hreads]
  rfl

end ScenarioStubs.Json
