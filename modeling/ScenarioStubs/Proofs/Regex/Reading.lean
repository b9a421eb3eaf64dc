import ScenarioStubs.Regex.Parser

/-!
# Reading a pattern with something behind it

A pattern may be set in front of a closing parenthesis and an anchor (`closing`). What reads a part of a pattern reads
the same part in front of them, with more left behind it (`Foretells.before`), or nothing is left either way, because
the pattern ends in a comment that hides what comes after it (`Foretells.hidden`). Where reading the pattern alone
fails, reading on fails as well, or has gone so far that no parenthesis is left to close the pattern
(`Foretells.failed`). Readers that are run one after another foretell if each of them does (`Foretells.followed`).

Here this is shown of filler (`foretells_skip`) and of runs of characters of one kind (`foretells_run`).
-/

namespace ScenarioStubs.Regex

/-- What is put behind a pattern to anchor it. -/
def closing : List Char := [')', '$']

/-- The fuel for a pattern with this behind it. -/
theorem fuel_closing (cs : List Char) : (cs ++ closing).length + 1 = cs.length + 1 + 2 :=
  congrArg (· + 1) List.length_append

/-! ## What is left of a pattern -/

/-- Results of reading, with what is left of the pattern. -/
class Leaves (α : Type) where
  left : α → List Char
  more : α → List Char → α

export Leaves (left more)

instance : Leaves (List Char) := ⟨id, (· ++ ·)⟩

instance {α β : Type} [Leaves β] : Leaves (α × β) := ⟨fun x => left x.2, fun x cs => (x.1, more x.2 cs)⟩

instance : Leaves Cursor := ⟨Cursor.rest, fun st cs => { st with rest := st.rest ++ cs }⟩

theorem ok_of_bind {α β : Type} {r : Parse α} {f : α → Parse β} {y : β} (h : r >>= f = .ok y) :
    ∃ x, r = .ok x ∧ f x = .ok y := by
  cases r with
  | error cause => cases h
  | ok x => exact ⟨x, rfl, h⟩

theorem ok_of_map {α β : Type} {r : Parse α} {g : α → β} {y : β} (h : r.map g = .ok y) : ∃ x, r = .ok x ∧ g x = y := by
  cases r with
  | error cause => cases h
  | ok x => exact ⟨x, rfl, Except.ok.inj h⟩

theorem bind_congr_ok {α β : Type} {r : Parse α} {f f' : α → Parse β} (h : ∀ x, r = .ok x → f x = f' x) :
    r >>= f = r >>= f' := by
  cases r with
  | error cause => rfl
  | ok x => exact h x rfl

/-- What a reader leaves is an end of what it was given. -/
def Trims {α : Type} [Leaves α] (cs : List Char) (r : Parse α) : Prop := ∀ x, r = .ok x → left x <:+ cs

/-- A comment is open at the end of a pattern, if white space is ignored there. -/
def EndsInComment (cs : List Char) : Prop := ∃ before comment, cs = before ++ '#' :: comment ∧ '\n' ∉ comment

theorem EndsInComment.of_suffix {cs cs' : List Char} (h : EndsInComment cs') (hs : cs' <:+ cs) : EndsInComment cs := by
  obtain ⟨front, rfl⟩ := hs
  obtain ⟨before, comment, rfl, hcomment⟩ := h
  exact ⟨front ++ before, comment, (List.append_assoc ..).symm, hcomment⟩

/-! ## Filler -/

theorem skipFiller_suffix (inComment : Bool) (cs : List Char) : skipFiller inComment cs <:+ cs := by
  fun_induction skipFiller inComment cs with
  | case1 => exact List.suffix_refl _
  | case2 c cs ih => exact ih.trans (List.suffix_cons c cs)
  | case3 c cs _ ih => exact ih.trans (List.suffix_cons c cs)
  | case4 cs _ ih => exact ih.trans (List.suffix_cons '#' cs)
  | case5 c cs => exact List.suffix_refl _

theorem skip_suffix (verbose : Bool) (cs : List Char) : skip verbose cs <:+ cs := by
  unfold skip
  split
  · exact skipFiller_suffix false cs
  · exact List.suffix_refl _

/-- Filler at the end of a pattern is passed over before what comes behind it, unless a comment hides that. -/
theorem skipFiller_append (inComment : Bool) (cs : List Char) :
    skipFiller inComment (cs ++ closing) = skipFiller inComment cs ++ closing ∨
      (skipFiller inComment cs = [] ∧ skipFiller inComment (cs ++ closing) = [] ∧
        (inComment = true ∧ '\n' ∉ cs ∨ EndsInComment cs)) := by
  fun_induction skipFiller inComment cs with
  | case1 inComment =>
    cases inComment with
    | false => exact .inl rfl
    | true => exact .inr ⟨rfl, rfl, .inl ⟨rfl, List.not_mem_nil⟩⟩
  | case2 c cs ih =>
    obtain heq | ⟨hnil, hnil', hcomment⟩ := ih
    · exact .inl heq
    · refine .inr ⟨hnil, hnil', ?_⟩
      obtain ⟨hc, hcs⟩ | hcomment := hcomment
      · exact .inl ⟨rfl, List.not_mem_cons_of_ne_of_not_mem (bne_iff_ne.mp hc).symm hcs⟩
      · exact .inr (hcomment.of_suffix (List.suffix_cons c cs))
  | case3 c cs hc ih =>
    rw [List.cons_append, skipFiller, if_pos hc]
    obtain heq | ⟨hnil, hnil', ⟨hfalse, -⟩ | hcomment⟩ := ih
    · exact .inl heq
    · cases hfalse
    · exact .inr ⟨hnil, hnil', .inr (hcomment.of_suffix (List.suffix_cons c cs))⟩
  | case4 cs hc ih =>
    rw [List.cons_append, skipFiller, if_neg hc, if_pos rfl]
    obtain heq | ⟨hnil, hnil', ⟨-, hcs⟩ | hcomment⟩ := ih
    · exact .inl heq
    · exact .inr ⟨hnil, hnil', .inr ⟨[], cs, rfl, hcs⟩⟩
    · exact .inr ⟨hnil, hnil', .inr (hcomment.of_suffix (List.suffix_cons '#' cs))⟩
  | case5 c cs hc hsign =>
    rw [List.cons_append, skipFiller, if_neg hc, if_neg hsign]
    exact .inl rfl

theorem skip_append (verbose : Bool) (cs : List Char) :
    skip verbose (cs ++ closing) = skip verbose cs ++ closing ∨
      (skip verbose cs = [] ∧ skip verbose (cs ++ closing) = [] ∧ EndsInComment cs) := by
  unfold skip
  cases verbose with
  | false => exact .inl rfl
  | true =>
    obtain heq | ⟨hnil, hnil', ⟨hfalse, -⟩ | hcomment⟩ := skipFiller_append false cs
    · exact .inl heq
    · cases hfalse
    · exact .inr ⟨hnil, hnil', hcomment⟩

theorem skip_nil (verbose : Bool) : skip verbose [] = [] := by
  cases verbose <;> rfl

/-! ## Reading on -/

section Foretelling

variable {α β : Type} [Leaves α] [Leaves β]

/-- What reading a pattern alone, with result `r`, foretells of reading it with more behind it, with result `r'`. -/
inductive Foretells (late : α → Prop) (cs : List Char) : Parse α → Parse α → Prop
  | before (x : α) : Foretells late cs (.ok x) (.ok (more x closing))
  | hidden {x : α} (hleft : left x = []) (hcomment : EndsInComment cs) : Foretells late cs (.ok x) (.ok x)
  | failed (cause : SyntaxError) {r' : Parse α} (hlate : ∀ y, r' = .ok y → late y) :
      Foretells late cs (.error cause) r'

namespace Foretells

variable {late : α → Prop} {late' : β → Prop} {cs cs' : List Char} {r r' : Parse α}

theorem of_suffix (h : Foretells late cs' r r') (hs : cs' <:+ cs) : Foretells late cs r r' := by
  cases h with
  | before x => exact .before x
  | hidden hleft hcomment => exact .hidden hleft (hcomment.of_suffix hs)
  | failed cause hlate => exact .failed cause hlate

theorem error (cause cause' : SyntaxError) : Foretells late cs (.error cause) (.error cause') :=
  .failed cause fun _ h => by cases h

/-- The same happens where nothing is left either way. -/
theorem same (hcomment : EndsInComment cs) (hleft : ∀ x, r = .ok x → left x = []) : Foretells late cs r r := by
  cases r with
  | error cause => exact .error cause cause
  | ok x => exact .hidden (hleft x rfl) hcomment

theorem bind {f : α → Parse β} {f' : α → Parse β} (h : Foretells late cs r r')
    (hbefore : ∀ x, r = .ok x → Foretells late' cs (f x) (f' (more x closing)))
    (hhidden : ∀ x, r = .ok x → left x = [] → EndsInComment cs → Foretells late' cs (f x) (f' x))
    (hlate : ∀ x, r' = .ok x → late x → ∀ y, f' x = .ok y → late' y) :
    Foretells late' cs (r >>= f) (r' >>= f') := by
  cases h with
  | before x => exact hbefore x rfl
  | hidden hleft hcomment => exact hhidden _ rfl hleft hcomment
  | failed cause h =>
    refine .failed cause fun y hy => ?_
    cases r' with
    | error cause' => cases hy
    | ok x => exact hlate x rfl (h x rfl) y hy

theorem map {g : α → β} (h : Foretells late cs r r') (hleft : ∀ x, left (g x) = left x)
    (hmore : ∀ x, g (more x closing) = more (g x) closing) (hlate : ∀ x, late x → late' (g x)) :
    Foretells late' cs (r.map g) (r'.map g) := by
  cases h with
  | before x =>
    show Foretells late' cs (.ok (g x)) (.ok (g (more x closing)))
    rw [hmore]
    exact .before (g x)
  | hidden h hcomment => exact .hidden ((hleft _).trans h) hcomment
  | failed cause h =>
    refine .failed cause fun y hy => ?_
    cases r' with
    | error cause' => cases hy
    | ok x =>
      cases hy
      exact hlate x (h x rfl)

end Foretells

/-- Where reading the pattern alone fails, reading on fails as well. -/
abbrev Never (_ : α) : Prop := False

/-- Reading has gone beyond the parenthesis that closes a pattern. -/
abbrev Late (x : α) : Prop := left x <:+ ['$']

namespace Trims

variable {cs cs' : List Char} {r : Parse α}

theorem error (cause : SyntaxError) : Trims (α := α) cs (.error cause) := fun _ h => by cases h

theorem ok {x : α} (h : left x <:+ cs) : Trims cs (.ok x) := fun _ hy => Except.ok.inj hy ▸ h

theorem of_suffix (h : Trims cs' r) (hs : cs' <:+ cs) : Trims cs r := fun x hx => (h x hx).trans hs

theorem bind {f : α → Parse β} (h : Trims cs r) (hf : ∀ x, Trims (left x) (f x)) : Trims cs (r >>= f) := by
  cases r with
  | error cause => exact .error cause
  | ok x => exact (hf x).of_suffix (h x rfl)

theorem map {g : α → β} (hleft : ∀ x, left (g x) = left x) (h : Trims cs r) : Trims cs (r.map g) := by
  cases r with
  | error cause => exact .error cause
  | ok x => exact .ok (hleft x ▸ h x rfl)

end Trims

namespace Foretells

variable {late : α → Prop} {late' : β → Prop} {cs : List Char} {r r' : Parse α} {f f' : α → Parse β}

/-- Readers one after the other. -/
theorem followed (h : Foretells late cs r r') (hr : Trims cs r) (hf : ∀ x, Trims (left x) (f' x))
    (hnil : ∀ x, left x = [] → f x = f' x)
    (hbefore : ∀ x, r = .ok x → Foretells late' (left x) (f x) (f' (more x closing)))
    (hlate : ∀ x, late x → ∀ y, f' x = .ok y → late' y) : Foretells late' cs (r >>= f) (r' >>= f') := by
  refine h.bind (fun x hx => (hbefore x hx).of_suffix (hr x hx)) ?_ fun x _ => hlate x
  intro x _ hleft hcomment
  rw [hnil x hleft]
  exact .same hcomment fun y hy => List.suffix_nil.mp (hleft ▸ hf x y hy)

/-- Nothing but the second reader may go beyond the parenthesis. -/
theorem surely (h : Foretells Never cs r r') (hr : Trims cs r) (hf : ∀ x, Trims (left x) (f x))
    (hbefore : ∀ x, r = .ok x → Foretells late' (left x) (f x) (f (more x closing))) :
    Foretells late' cs (r >>= f) (r' >>= f) :=
  h.followed hr hf (fun _ _ => rfl) hbefore fun _ hlate => hlate.elim

/-- What is beyond the parenthesis stays there. -/
theorem andThen (h : Foretells Late cs r r') (hr : Trims cs r) (hf : ∀ x, Trims (left x) (f x))
    (hbefore : ∀ x, r = .ok x → Foretells Late (left x) (f x) (f (more x closing))) :
    Foretells Late cs (r >>= f) (r' >>= f) :=
  h.followed hr hf (fun _ _ => rfl) hbefore fun x hlate y hy => (hf x y hy).trans hlate

end Foretells

end Foretelling

/-! ## Characters behind a pattern -/

variable {verbose : Bool} {cs rest : List Char}

/-- A character that is not in the text behind a pattern is not read there. -/
theorem not_late_of_not_mem {c : Char} (h : c :: rest <:+ cs) (hcs : cs <:+ closing) (hc : c ∉ closing) : False :=
  hc (hcs.subset (h.subset List.mem_cons_self))

theorem foretells_skip (late : List Char → Prop) (cs : List Char) :
    Foretells late cs (.ok (skip verbose cs)) (.ok (skip verbose (cs ++ closing))) := by
  obtain heq | ⟨hnil, hnil', hcomment⟩ := skip_append verbose cs
  · rw [heq]
    exact .before (skip verbose cs)
  · rw [hnil, hnil']
    exact .hidden rfl hcomment

theorem foretells_with_skip {α : Type} (late : α × List Char → Prop) (x : α) (cs : List Char) :
    Foretells late cs (.ok (x, skip verbose cs)) (.ok (x, skip verbose (cs ++ closing))) := by
  obtain heq | ⟨hnil, hnil', hcomment⟩ := skip_append verbose cs
  · rw [heq]
    exact .before (x, skip verbose cs)
  · rw [hnil, hnil']
    exact .hidden rfl hcomment

/-! ## Runs of characters -/

/-- The longest run of characters of a kind, filler between them passed over where it is ignored. -/
def run (verbose : Bool) (p : Char → Bool) : Nat → List Char → List Char → List Char × List Char
  | 0, found, cs => (found.reverse, cs)
  | bound + 1, found, cs =>
    match cs with
    | c :: rest => if p c then run verbose p bound (c :: found) (skip verbose rest) else (found.reverse, cs)
    | [] => (found.reverse, [])

section Runs

variable {p : Char → Bool}

theorem run_suffix (bound : Nat) (found cs : List Char) : (run verbose p bound found cs).2 <:+ cs := by
  induction bound generalizing found cs with
  | zero => exact List.suffix_refl cs
  | succ bound ih =>
    unfold run
    split
    case h_1 c cs =>
      split
      · exact (ih _ _).trans ((skip_suffix verbose cs).trans (List.suffix_cons c cs))
      · exact List.suffix_refl _
    case h_2 => exact List.suffix_refl _

theorem run_nil (bound : Nat) (found : List Char) : run verbose p bound found [] = (found.reverse, []) := by
  cases bound <;> rfl

/-- A run ends at the parenthesis, unless that is of the same kind. -/
theorem foretells_run (hp : p ')' = false) {bound : Nat} (k : Nat) (found : List Char) (hbound : cs.length ≤ bound) :
    Foretells Never cs (.ok (run verbose p bound found cs))
      (.ok (run verbose p (bound + k) found (cs ++ closing))) := by
  induction bound generalizing found cs with
  | zero =>
    obtain rfl : cs = [] := List.eq_nil_of_length_eq_zero (Nat.le_zero.mp hbound)
    have hclosing : run verbose p (0 + k) found ([] ++ closing) = (found.reverse, closing) := by
      cases k with
      | zero => rfl
      | succ k => exact if_neg (hp ▸ Bool.false_ne_true)
    rw [hclosing]
    exact .before (found.reverse, [])
  | succ bound ih =>
    rw [Nat.succ_add]
    cases cs with
    | nil =>
      have hclosing : run verbose p (bound + k + 1) found ([] ++ closing) = (found.reverse, closing) :=
        if_neg (hp ▸ Bool.false_ne_true)
      rw [hclosing]
      exact .before (found.reverse, [])
    | cons c cs =>
      unfold run
      dsimp only [List.cons_append]
      split
      · have hlength := (skip_suffix verbose cs).length_le
        rw [List.length_cons] at hbound
        obtain heq | ⟨hnil, hnil', hcomment⟩ := skip_append verbose cs
        · rw [heq]
          exact (ih _ (by omega)).of_suffix ((skip_suffix verbose cs).trans (List.suffix_cons c cs))
        · rw [hnil, hnil', run_nil, run_nil]
          exact .hidden rfl (hcomment.of_suffix (List.suffix_cons c cs))
      · exact .before (_, c :: cs)

/-- As much fuel as there are characters is enough. -/
theorem foretells_whole_run (hp : p ')' = false) (cs : List Char) : Foretells Never cs
    (.ok (run verbose p cs.length [] cs)) (.ok (run verbose p (cs ++ closing).length [] (cs ++ closing))) := by
  rw [List.length_append]
  exact foretells_run hp 2 [] (Nat.le_refl cs.length)

end Runs

end ScenarioStubs.Regex
