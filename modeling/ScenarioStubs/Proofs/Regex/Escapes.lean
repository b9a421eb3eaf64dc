import ScenarioStubs.Proofs.Regex.Reading

/-!
# Reading escapes with something behind them

An escape at the end of a pattern is read as the same in front of a closing parenthesis, or the parenthesis is taken
for a part of it (`foretells_escape`). A word boundary is an exception: a brace and blanks alone after it make it no
escape, but with more behind them they do (`Dangling`).
-/

namespace ScenarioStubs.Regex

variable {verbose : Bool} {cs rest : List Char}

/-! ## Digits and names in braces -/

theorem trims_fixedHex (count : Nat) (found cs : List Char) : Trims cs (fixedHex verbose count found cs) := by
  induction count generalizing found cs with
  | zero => exact .ok (List.suffix_refl cs)
  | succ count ih =>
    unfold fixedHex
    split
    · exact .error _
    case h_2 c cs =>
      split
      · exact (ih _ _).of_suffix ((skip_suffix verbose cs).trans (List.suffix_cons c cs))
      · exact .error _

theorem foretells_fixedHex (count : Nat) (found cs : List Char) :
    Foretells Late cs (fixedHex verbose count found cs) (fixedHex verbose count found (cs ++ closing)) := by
  induction count generalizing found cs with
  | zero => exact .before (found.reverse, cs)
  | succ count ih =>
    cases cs with
    | nil => exact .error _ _
    | cons c cs =>
      unfold fixedHex
      dsimp only [List.cons_append]
      split
      · obtain heq | ⟨hnil, hnil', hcomment⟩ := skip_append verbose cs
        · rw [heq]
          exact (ih _ _).of_suffix ((skip_suffix verbose cs).trans (List.suffix_cons c cs))
        · rw [hnil, hnil']
          refine .same (hcomment.of_suffix (List.suffix_cons c cs)) fun x hx => ?_
          exact List.suffix_nil.mp (trims_fixedHex _ _ _ x hx)
      · exact .error _ _

theorem bracedText_suffix {bound : Nat} {found : List Char} {x : List Char × List Char}
    (h : bracedText verbose bound found cs = .ok x) : '\x7d' :: left x <:+ cs := by
  induction bound generalizing found cs with
  | zero => cases h
  | succ bound ih =>
    unfold bracedText at h
    split at h
    case h_1 => cases h
    case h_2 c cs' hskip =>
      have hs : c :: cs' <:+ cs := hskip ▸ skip_suffix verbose cs
      split at h
      case isTrue hc =>
        cases h
        exact hc ▸ hs
      case isFalse => exact (ih h).trans ((List.suffix_cons c cs').trans hs)

theorem trims_bracedText (bound : Nat) (found cs : List Char) : Trims cs (bracedText verbose bound found cs) :=
  fun _ hx => (List.suffix_cons _ _).trans (bracedText_suffix hx)

theorem foretells_bracedText {bound : Nat} (k : Nat) (found : List Char) (hbound : cs.length < bound) :
    Foretells Late cs (bracedText verbose bound found cs) (bracedText verbose (bound + k) found (cs ++ closing)) := by
  induction bound generalizing found cs with
  | zero => exact absurd hbound (Nat.not_lt_zero _)
  | succ bound ih =>
    have hsuffix := skip_suffix verbose cs
    rw [Nat.succ_add]
    unfold bracedText
    obtain heq | ⟨hnil, hnil', -⟩ := skip_append verbose cs
    · rw [heq]
      cases hskip : skip verbose cs with
      | nil =>
        refine .failed _ fun y hy => ?_
        exact (not_late_of_not_mem (bracedText_suffix hy) (List.suffix_cons _ _) (by decide)).elim
      | cons c cs' =>
        rw [hskip] at hsuffix
        dsimp only [List.cons_append]
        split
        · exact .before (found.reverse, cs')
        · have hlength := hsuffix.length_le
          rw [List.length_cons] at hlength
          exact (ih _ (by omega)).of_suffix ((List.suffix_cons c cs').trans hsuffix)
    · rw [hnil, hnil']
      exact .error _ _

/-- As much fuel as there are characters is enough. -/
theorem foretells_braced (cs : List Char) : Foretells Late cs (bracedText verbose (cs.length + 1) [] cs)
    (bracedText verbose ((cs ++ closing).length + 1) [] (cs ++ closing)) := by
  rw [fuel_closing]
  exact foretells_bracedText 2 [] (Nat.lt_succ_self cs.length)

theorem trims_hexEscape (width : Nat) (cs : List Char) : Trims cs (hexEscape verbose width cs) := by
  unfold hexEscape
  refine Trims.of_suffix ?_ (skip_suffix verbose cs)
  generalize skip verbose cs = cs
  split
  case h_1 => exact .error _
  case h_2 cs =>
    refine Trims.of_suffix (.bind (trims_bracedText _ _ cs) fun x => ?_) (List.suffix_cons _ cs)
    dsimp only
    split
    · exact .ok (skip_suffix verbose x.2)
    · exact .error _
  case h_3 =>
    refine .bind (trims_fixedHex _ _ cs) fun x => ?_
    dsimp only
    split
    · exact .ok (List.suffix_refl _)
    · exact .error _

/-- The digits of an escape are read to the closing brace, or as many as its width tells. -/
theorem foretells_hexEscape {width : Nat} (hwidth : 0 < width) (cs : List Char) :
    Foretells Late cs (hexEscape verbose width cs) (hexEscape verbose width (cs ++ closing)) := by
  unfold hexEscape
  obtain heq | ⟨hnil, hnil', -⟩ := skip_append verbose cs
  · rw [heq]
    refine Foretells.of_suffix ?_ (skip_suffix verbose cs)
    generalize skip verbose cs = cs
    split
    case h_1 =>
      cases width with
      | zero => exact absurd hwidth (Nat.lt_irrefl 0)
      | succ => exact .error _ _
    case h_2 cs =>
      refine Foretells.of_suffix ?_ (List.suffix_cons '\x7b' cs)
      refine .andThen (foretells_braced cs) (trims_bracedText _ _ cs) (fun x => ?_) fun x _ => ?_
      · dsimp only
        split
        · exact .ok (skip_suffix verbose x.2)
        · exact .error _
      · dsimp only [more]
        split
        · exact foretells_with_skip _ _ _
        · exact .error _ _
    case h_3 hcs hbrace =>
      split
      case h_1 heq => exact (hcs (List.append_eq_nil_iff.mp heq).1).elim
      case h_2 heq => cases cs <;> simp_all [closing]
      case h_3 =>
        refine .andThen (foretells_fixedHex _ _ cs) (trims_fixedHex _ _ cs) (fun x => ?_) fun x _ => ?_
        · dsimp only
          split
          · exact .ok (List.suffix_refl _)
          · exact .error _
        · dsimp only [more]
          split
          · exact .before _
          · exact .error _ _
  · rw [hnil, hnil']
    exact .error _ _

theorem trims_propertyEscape (negated : Bool) (cs : List Char) : Trims cs (propertyEscape verbose negated cs) := by
  unfold propertyEscape
  refine Trims.of_suffix ?_ (skip_suffix verbose cs)
  generalize skip verbose cs = cs
  split
  case h_1 => exact .error _
  case h_2 cs =>
    exact Trims.of_suffix (.bind (trims_bracedText _ _ cs) fun x => .ok (List.suffix_refl x.2)) (List.suffix_cons _ cs)
  case h_3 c cs _ =>
    split
    · exact .error _
    · exact .ok ((skip_suffix verbose cs).trans (List.suffix_cons c cs))

/-- Where the letter of a property is missing, the parenthesis is taken for it. -/
theorem foretells_propertyEscape (negated : Bool) (cs : List Char) :
    Foretells Late cs (propertyEscape verbose negated cs) (propertyEscape verbose negated (cs ++ closing)) := by
  unfold propertyEscape
  obtain heq | ⟨hnil, hnil', -⟩ := skip_append verbose cs
  · rw [heq]
    refine Foretells.of_suffix ?_ (skip_suffix verbose cs)
    generalize skip verbose cs = cs
    cases cs with
    | nil =>
      refine .failed _ fun y hy => ?_
      cases hy
      exact skip_suffix verbose ['$']
    | cons c cs =>
      refine Foretells.of_suffix ?_ (List.suffix_cons c cs)
      by_cases hc : c = '\x7b'
      · subst hc
        exact .andThen (foretells_braced cs) (trims_bracedText _ _ cs) (fun x => .ok (List.suffix_refl x.2))
          fun x _ => .before _
      · simp only [List.cons_append]
        split
        · exact .error _ _
        · exact foretells_with_skip _ _ _
  · rw [hnil, hnil']
    exact .error _ _

/-! ## Word boundaries -/

theorem boundaryName_eq (bound : Nat) (found cs : List Char) :
    boundaryName verbose bound found cs = run verbose isBoundaryNameChar bound found cs := by
  induction bound generalizing found cs with
  | zero => rfl
  | succ bound ih =>
    cases cs with
    | nil => rfl
    | cons c cs =>
      unfold boundaryName run
      simp only [ih]

/-- The word boundary that a name means. -/
def boundaryNamed? (name : List Char) : Option Assertion :=
  if name = "start".toList then some .wordStart
  else if name = "end".toList then some .wordEnd
  else if name = "start-half".toList then some .wordStartHalf
  else if name = "end-half".toList then some .wordEndHalf
  else none

/-- The word boundary with a name, from the name and what comes behind it. -/
def namedBoundary : List Char × List Char → Parse (Assertion × List Char)
  | (name, '\x7d' :: cs) =>
    match boundaryNamed? name with
    | some a => .ok (a, cs)
    | none => .error .wordBoundary
  | _ => .error .wordBoundary

theorem namedBoundary_brace (name cs : List Char) : namedBoundary (name, '\x7d' :: cs) =
    match boundaryNamed? name with
    | some a => .ok (a, cs)
    | none => .error .wordBoundary := rfl

theorem namedBoundary_of_ne {c : Char} (hc : c ≠ '\x7d') (name cs : List Char) :
    namedBoundary (name, c :: cs) = .error .wordBoundary := by
  unfold namedBoundary
  split
  case h_1 heq =>
    cases heq
    exact absurd rfl hc
  case h_2 => rfl

theorem trims_namedBoundary (x : List Char × List Char) : Trims x.2 (namedBoundary x) := by
  unfold namedBoundary
  split
  case h_1 cs =>
    split
    · exact .ok (List.suffix_cons _ cs)
    · exact .error _
  case h_2 => exact .error _

theorem foretells_namedBoundary (late : Assertion × List Char → Prop) (x : List Char × List Char) :
    Foretells late x.2 (namedBoundary x) (namedBoundary (more x closing)) := by
  obtain ⟨name, cs⟩ := x
  cases cs with
  | nil => exact .error _ _
  | cons c cs =>
    show Foretells late _ (namedBoundary (name, c :: cs)) (namedBoundary (name, c :: (cs ++ closing)))
    by_cases hc : c = '\x7d'
    · subst hc
      rw [namedBoundary_brace, namedBoundary_brace]
      split
      · exact .before (_, cs)
      · exact .error _ _
    · rw [namedBoundary_of_ne hc, namedBoundary_of_ne hc]
      exact .error _ _

/-- The name of a word boundary is the same with more behind it. -/
theorem foretells_boundaryName (late : Assertion × List Char → Prop) (cs : List Char) :
    Foretells late cs (namedBoundary (boundaryName verbose cs.length [] cs))
      (namedBoundary (boundaryName verbose (cs ++ closing).length [] (cs ++ closing))) := by
  rw [boundaryName_eq, boundaryName_eq]
  exact (foretells_whole_run rfl cs).surely (.ok (run_suffix _ [] cs)) trims_namedBoundary
    (fun x _ => foretells_namedBoundary late x)

theorem wordBoundary_brace (inner : List Char) : wordBoundary verbose ('\x7b' :: inner) =
    match skip verbose inner with
    | [] => .error .wordBoundary
    | c :: rest =>
      if isBoundaryNameChar c then namedBoundary (boundaryName verbose (rest.length + 1) [] (c :: rest))
      else .ok (.wordBoundary, '\x7b' :: inner) := by
  rw [wordBoundary]
  cases skip verbose inner with
  | nil => rfl
  | cons c rest =>
    dsimp only
    by_cases hc : isBoundaryNameChar c
    case neg => rw [if_neg hc, if_neg hc]
    rw [if_pos hc, if_pos hc]
    split
    case h_2 hne =>
      unfold namedBoundary
      split
      case h_1 name cs hname => exact (hne name cs hname).elim
      case h_2 => rfl
    case h_1 name cs hname =>
      rw [hname, namedBoundary_brace, boundaryNamed?]
      by_cases hstart : name = "start".toList
      · rw [if_pos hstart, if_pos hstart]
      rw [if_neg hstart, if_neg hstart]
      by_cases hend : name = "end".toList
      · rw [if_pos hend, if_pos hend]
      rw [if_neg hend, if_neg hend]
      by_cases hstartHalf : name = "start-half".toList
      · rw [if_pos hstartHalf, if_pos hstartHalf]
      rw [if_neg hstartHalf, if_neg hstartHalf]
      by_cases hendHalf : name = "end-half".toList
      · rw [if_pos hendHalf, if_pos hendHalf]
      rw [if_neg hendHalf, if_neg hendHalf]

theorem wordBoundary_of_ne {c : Char} (hc : c ≠ '\x7b') (cs : List Char) :
    wordBoundary verbose (c :: cs) = .ok (.wordBoundary, c :: cs) := by
  unfold wordBoundary
  split
  case h_1 heq => exact absurd (List.cons.inj heq).1 hc
  case h_2 => rfl

theorem trims_wordBoundary (cs : List Char) : Trims cs (wordBoundary verbose cs) := by
  cases cs with
  | nil => exact .ok (List.suffix_refl [])
  | cons c inner =>
    by_cases hc : c = '\x7b'
    · subst hc
      rw [wordBoundary_brace]
      split
      case h_1 => exact .error _
      case h_2 c rest hskip =>
        split
        · have hrest : c :: rest <:+ '\x7b' :: inner := by
            rw [← hskip]
            exact (skip_suffix verbose inner).trans (List.suffix_cons _ inner)
          rw [boundaryName_eq]
          exact (trims_namedBoundary _).of_suffix ((run_suffix _ [] (c :: rest)).trans hrest)
        · exact .ok (List.suffix_refl _)
    · rw [wordBoundary_of_ne hc]
      exact .ok (List.suffix_refl _)

/-- A brace and blanks, before what is put behind a pattern. -/
def Dangling (verbose : Bool) (cs : List Char) : Prop := ∃ blanks, cs = '\x7b' :: blanks ∧ skip verbose blanks = closing

/-- A word boundary before a brace and blanks alone is one only if more comes behind it. -/
theorem foretells_wordBoundary (cs : List Char) :
    Foretells (fun y => y.1 = .wordBoundary ∧ Dangling verbose y.2) cs (wordBoundary verbose cs)
      (wordBoundary verbose (cs ++ closing)) := by
  cases cs with
  | nil => exact .before (Assertion.wordBoundary, [])
  | cons c inner =>
    rw [List.cons_append]
    by_cases hc : c = '\x7b'
    · subst hc
      rw [wordBoundary_brace, wordBoundary_brace]
      have hsuffix := skip_suffix verbose inner
      obtain heq | ⟨hnil, hnil', -⟩ := skip_append verbose inner
      · rw [heq]
        cases hskip : skip verbose inner with
        | nil =>
          refine .failed _ fun y hy => ?_
          cases hy
          exact ⟨rfl, inner ++ closing, rfl, by rw [heq, hskip]; rfl⟩
        | cons c rest =>
          rw [hskip] at hsuffix
          have hrest : c :: rest <:+ '\x7b' :: inner := hsuffix.trans (List.suffix_cons _ inner)
          dsimp only [List.cons_append]
          split
          · exact (foretells_boundaryName _ (c :: rest)).of_suffix hrest
          · exact .before (Assertion.wordBoundary, '\x7b' :: inner)
      · rw [hnil, hnil']
        exact .error _ _
    · rw [wordBoundary_of_ne hc, wordBoundary_of_ne hc]
      exact .before (Assertion.wordBoundary, c :: inner)

/-! ## Any escape -/

/-- Reading goes beyond the parenthesis, or stops at a brace that cannot bound a repetition. -/
def LateEscape (verbose : Bool) (y : Primitive × List Char) : Prop :=
  Late y ∨ y.1 = .assertion .wordBoundary ∧ Dangling verbose y.2

theorem trims_escape (cs : List Char) : Trims cs (escape verbose cs) := by
  cases cs with
  | nil => exact .error _
  | cons c cs =>
    refine Trims.of_suffix ?_ (List.suffix_cons c cs)
    unfold escape
    dsimp only
    split
    · exact .error _
    split
    · exact .ok (List.suffix_refl cs)
    split
    -- The letters that more characters belong to, in the order of the definition, and all others.
    case h_1 | h_2 | h_3 => exact .map (fun _ => rfl) (trims_hexEscape _ cs)
    case h_4 | h_5 => exact .map (fun _ => rfl) (trims_propertyEscape _ cs)
    case h_20 => exact .map (fun _ => rfl) (trims_wordBoundary cs)
    case h_24 => exact .error _
    all_goals exact .ok (List.suffix_refl cs)

/-- An escape is read as it is alone, but for a word boundary before a brace and blanks. -/
theorem foretells_escape (cs : List Char) :
    Foretells (LateEscape verbose) cs (escape verbose cs) (escape verbose (cs ++ closing)) := by
  cases cs with
  | nil =>
    refine .failed _ fun y hy => .inl ?_
    cases hy
    exact List.suffix_refl ['$']
  | cons c cs =>
    refine Foretells.of_suffix ?_ (List.suffix_cons c cs)
    unfold escape
    dsimp only [List.cons_append]
    split
    · exact .error _ _
    split
    · exact .before (_, cs)
    split
    -- The letters that more characters belong to, in the order of the definition, and all others.
    case h_1 | h_2 | h_3 =>
      exact (foretells_hexEscape (by decide) cs).map (fun _ => rfl) (fun _ => rfl) fun _ => .inl
    case h_4 | h_5 => exact (foretells_propertyEscape _ cs).map (fun _ => rfl) (fun _ => rfl) fun _ => .inl
    case h_20 =>
      refine (foretells_wordBoundary cs).map (fun _ => rfl) (fun _ => rfl) fun x hx => .inr ⟨?_, hx.2⟩
      exact congrArg Primitive.assertion hx.1
    case h_24 => exact .error _ _
    all_goals exact .before (_, cs)

end ScenarioStubs.Regex
