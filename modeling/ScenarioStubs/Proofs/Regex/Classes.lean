import ScenarioStubs.Proofs.Regex.Escapes

/-!
# Reading bracketed classes with something behind them

A class is read up to a bracket that closes it (`classTail_closes`). What comes behind a pattern holds no such bracket,
so it makes no difference to a class: one that is read is read alike (`foretells_bracketedClass`), and one that is not
closed is not closed by it, whatever its last item becomes (`foretells_classItem`).
-/

namespace ScenarioStubs.Regex

variable {verbose : Bool} {cs rest : List Char}

/-- What comes behind a pattern is no part of a start that holds no parenthesis. -/
theorem not_start_append (w : List Char) (hw : ')' ∉ w) (h : ∀ rest, cs = w ++ rest → False) :
    ∀ rest, cs ++ closing = w ++ rest → False := by
  induction w generalizing cs with
  | nil => exact (h cs rfl).elim
  | cons c w ih =>
    intro rest heq
    cases cs with
    | nil => exact hw ((List.cons.inj heq).1 ▸ List.mem_cons_self)
    | cons d cs =>
      have hcs : cs ++ closing = w ++ rest := (List.cons.inj heq).2
      obtain rfl : d = c := (List.cons.inj heq).1
      exact ih (fun hmem => hw (List.mem_cons_of_mem d hmem)) (fun rest hrest => h rest (congrArg (d :: ·) hrest))
        rest hcs

/-! ## Named classes -/

/-- What comes behind a pattern matters to a search for a character only where the pattern does not hold it. -/
theorem parted_append {p : Char → Bool} (hp : closing.dropWhile p = []) (cs : List Char) :
    (cs.dropWhile p = [] ∧ (cs ++ closing).dropWhile p = []) ∨
      ∃ c rest, p c = false ∧ cs.dropWhile p = c :: rest ∧ (cs ++ closing).dropWhile p = c :: rest ++ closing ∧
        (cs ++ closing).takeWhile p = cs.takeWhile p := by
  induction cs with
  | nil => exact .inl ⟨rfl, hp⟩
  | cons d cs ih =>
    rw [List.cons_append, List.dropWhile_cons, List.dropWhile_cons, List.takeWhile_cons, List.takeWhile_cons]
    cases hd : p d with
    | false => exact .inr ⟨d, cs, hd, rfl, rfl, rfl⟩
    | true =>
      obtain hnil | ⟨c, rest, hc, hdrop, hdrop', htake⟩ := ih
      · exact .inl hnil
      · exact .inr ⟨c, rest, hc, hdrop, hdrop', congrArg (d :: ·) htake⟩

/-- The class with a name, from what comes after its sign. -/
def namedBody? (negated : Bool) (cs : List Char) : Option (ClassTree × List Char) :=
  match cs.dropWhile (· != ':') with
  | ':' :: ']' :: rest =>
    (asciiClass? (String.ofList (cs.takeWhile (· != ':')))).map fun kind => (.ascii negated kind, rest)
  | _ => none

theorem namedClass?_colon {c : Char} (hc : c ≠ '^') (cs : List Char) :
    namedClass? (':' :: c :: cs) = namedBody? false (c :: cs) := by
  rw [namedClass?]
  · rfl
  · exact fun cs' heq => hc (List.cons.inj heq).1

theorem namedClass?_of_ne {c : Char} (hc : c ≠ ':') (cs : List Char) : namedClass? (c :: cs) = none := by
  rw [namedClass?]
  exact fun cs' heq => hc (List.cons.inj heq).1

theorem namedBody?_append (negated : Bool) (cs : List Char) :
    namedBody? negated (cs ++ closing) = (namedBody? negated cs).map (more · closing) := by
  unfold namedBody?
  obtain ⟨hnil, hnil'⟩ | ⟨c, rest, hc, hdrop, hdrop', htake⟩ := parted_append (p := (· != ':')) rfl cs
  · rw [hnil, hnil']
    rfl
  · obtain rfl : c = ':' := Classical.byContradiction fun hne => absurd hc (by simp [hne])
    rw [hdrop, hdrop', htake]
    cases rest with
    | nil => rfl
    | cons d rest =>
      by_cases hd : d = ']'
      · subst hd
        show Option.map _ _ = Option.map _ (Option.map _ _)
        rw [Option.map_map]
        rfl
      · simp [hd]

theorem namedClass?_append (cs : List Char) : namedClass? (cs ++ closing) = (namedClass? cs).map (more · closing) := by
  cases cs with
  | nil => rfl
  | cons c cs =>
    rw [List.cons_append]
    by_cases hc : c = ':'
    case neg => rw [namedClass?_of_ne hc, namedClass?_of_ne hc, Option.map_none]
    subst hc
    cases cs with
    | nil => rfl
    | cons d cs =>
      rw [List.cons_append]
      by_cases hd : d = '^'
      · subst hd
        exact namedBody?_append true cs
      · rw [namedClass?_colon hd, namedClass?_colon hd]
        exact namedBody?_append false (d :: cs)

theorem namedBody?_suffix {negated : Bool} {x : ClassTree × List Char} (h : namedBody? negated cs = some x) :
    left x <:+ cs := by
  unfold namedBody? at h
  split at h
  case h_1 rest hdrop =>
    obtain ⟨kind, -, rfl⟩ := Option.map_eq_some_iff.mp h
    have hrest : ':' :: ']' :: rest <:+ cs := by
      rw [← hdrop]
      exact List.dropWhile_suffix _
    exact ((List.suffix_cons _ rest).trans (List.suffix_cons _ _)).trans hrest
  case h_2 => cases h

theorem namedClass?_suffix {x : ClassTree × List Char} (h : namedClass? cs = some x) : left x <:+ cs := by
  cases cs with
  | nil => cases h
  | cons c cs =>
    by_cases hc : c = ':'
    case neg =>
      rw [namedClass?_of_ne hc] at h
      cases h
    subst hc
    cases cs with
    | nil => cases h
    | cons d cs =>
      refine List.IsSuffix.trans ?_ (List.suffix_cons ':' (d :: cs))
      by_cases hd : d = '^'
      · subst hd
        exact (namedBody?_suffix h).trans (List.suffix_cons '^' cs)
      · rw [namedClass?_colon hd] at h
        exact namedBody?_suffix h

/-! ## The start of a class -/

/-- No parenthesis is left to close a pattern with, or nothing else has been read of what closes it. -/
abbrev Unclosed {α : Type} [Leaves α] (x : α) : Prop := left x <:+ closing

theorem leadingHyphens_eq (bound : Nat) (found cs : List Char) :
    leadingHyphens verbose bound (found.map fun c => .literal ⟨c, false⟩) cs =
      ((run verbose (· == '-') bound found cs).1.reverse.map fun c => .literal ⟨c, false⟩,
        (run verbose (· == '-') bound found cs).2) := by
  induction bound generalizing found cs with
  | zero => rw [run, leadingHyphens, List.reverse_reverse]
  | succ bound ih =>
    cases cs with
    | nil =>
      rw [run, leadingHyphens, List.reverse_reverse]
      exact fun cs heq => List.cons_ne_nil '-' cs heq.symm
    | cons c cs =>
      by_cases hc : c = '-'
      · subst hc
        rw [leadingHyphens, run, if_pos (beq_self_eq_true '-')]
        exact ih ('-' :: found) (skip verbose cs)
      · rw [run, if_neg fun h => hc (eq_of_beq h), leadingHyphens, List.reverse_reverse]
        exact fun cs' heq => hc (List.cons.inj heq).1

/-- Whether a class is negated, and the pattern after the sign for it. -/
def afterCaret (verbose : Bool) : List Char → Bool × List Char
  | '^' :: cs => (true, skip verbose cs)
  | cs => (false, cs)

/-- The start of a class after the hyphens in it. -/
def afterHyphens (verbose negated : Bool) : List ClassTree × List Char → Parse (Bool × List ClassTree × List Char)
  | (_, []) => .error .classUnclosed
  | ([], ']' :: cs) =>
    match skip verbose cs with
    | [] => .error .classUnclosed
    | cs => .ok (negated, [.literal ⟨']', false⟩], cs)
  | (items, cs) => .ok (negated, items, cs)

/-- The start of a class after the sign that negates it. -/
def afterSign (verbose : Bool) (x : Bool × List Char) : Parse (Bool × List ClassTree × List Char) :=
  .ok (run verbose (· == '-') (x.2.length + 1) [] x.2) >>= fun (hyphens, cs) =>
    afterHyphens verbose x.1 (hyphens.reverse.map fun c => .literal ⟨c, false⟩, cs)

theorem classStart_eq (cs : List Char) : classStart verbose cs =
    .ok (skip verbose cs) >>= fun cs => .ok (afterCaret verbose cs) >>= afterSign verbose := by
  have hstart : classStart verbose cs = afterHyphens verbose (afterCaret verbose (skip verbose cs)).1
      (leadingHyphens verbose ((afterCaret verbose (skip verbose cs)).2.length + 1) []
        (afterCaret verbose (skip verbose cs)).2) := rfl
  rw [hstart]
  exact congrArg (afterHyphens verbose _) (leadingHyphens_eq _ [] _)

theorem afterCaret_suffix (cs : List Char) : (afterCaret verbose cs).2 <:+ cs := by
  unfold afterCaret
  split
  case h_1 cs => exact (skip_suffix verbose cs).trans (List.suffix_cons '^' cs)
  case h_2 => exact List.suffix_refl cs

theorem foretells_afterCaret (cs : List Char) :
    Foretells Never cs (.ok (afterCaret verbose cs)) (.ok (afterCaret verbose (cs ++ closing))) := by
  cases cs with
  | nil => exact .before (false, [])
  | cons c cs =>
    rw [List.cons_append]
    by_cases hc : c = '^'
    · subst hc
      exact (foretells_with_skip _ true cs).of_suffix (List.suffix_cons '^' cs)
    · rw [afterCaret, afterCaret]
      · exact .before (false, c :: cs)
      · exact fun cs' heq => hc (List.cons.inj heq).1
      · exact fun cs' heq => hc (List.cons.inj heq).1

theorem trims_afterHyphens (negated : Bool) (x : List ClassTree × List Char) :
    Trims x.2 (afterHyphens verbose negated x) := by
  unfold afterHyphens
  split
  case h_1 => exact .error _
  case h_2 cs =>
    dsimp only
    split
    case h_1 => exact .error _
    case h_2 => exact .ok ((skip_suffix verbose cs).trans (List.suffix_cons ']' cs))
  case h_3 => exact .ok (List.suffix_refl _)

theorem foretells_afterHyphens (negated : Bool) (x : List ClassTree × List Char) :
    Foretells Unclosed x.2 (afterHyphens verbose negated x) (afterHyphens verbose negated (more x closing)) := by
  obtain ⟨items, cs⟩ := x
  cases cs with
  | nil =>
    have hlate : afterHyphens verbose negated (items, closing) = .ok (negated, items, closing) := by
      cases items <;> rfl
    refine .failed _ fun y hy => ?_
    cases hlate.symm.trans hy
    exact List.suffix_refl closing
  | cons c cs =>
    show Foretells Unclosed (c :: cs) (afterHyphens verbose negated (items, c :: cs))
      (afterHyphens verbose negated (items, c :: (cs ++ closing)))
    by_cases hbracket : items = [] ∧ c = ']'
    · obtain ⟨rfl, rfl⟩ := hbracket
      rw [afterHyphens, afterHyphens]
      obtain heq | ⟨hnil, hnil', -⟩ := skip_append verbose cs
      · rw [heq]
        cases skip verbose cs with
        | nil =>
          refine .failed _ fun y hy => ?_
          cases hy
          exact List.suffix_refl closing
        | cons d cs => exact .before (negated, _, d :: cs)
      · rw [hnil, hnil']
        exact .error _ _
    · have hitems (cs : List Char) : afterHyphens verbose negated (items, c :: cs) = .ok (negated, items, c :: cs) := by
        rw [afterHyphens]
        · nofun
        · exact fun cs' hnil heq => hbracket ⟨hnil, (List.cons.inj heq).1⟩
      rw [hitems, hitems]
      exact .before (negated, items, c :: cs)

theorem trims_afterSign (x : Bool × List Char) : Trims x.2 (afterSign verbose x) :=
  .bind (.ok (run_suffix _ [] x.2)) fun y => trims_afterHyphens x.1 (_, y.2)

theorem foretells_afterSign (x : Bool × List Char) :
    Foretells Unclosed x.2 (afterSign verbose x) (afterSign verbose (more x closing)) := by
  have hlength : (more x closing).2.length + 1 = x.2.length + 1 + 2 := fuel_closing x.2
  unfold afterSign
  rw [hlength]
  exact (foretells_run rfl 2 [] (Nat.le_succ x.2.length)).surely (.ok (run_suffix _ [] x.2))
    (fun y => trims_afterHyphens x.1 (_, y.2)) (fun y _ => foretells_afterHyphens x.1 (_, y.2))

theorem trims_classStart (cs : List Char) : Trims cs (classStart verbose cs) := by
  rw [classStart_eq]
  exact .bind (.ok (skip_suffix verbose cs)) fun cs => .bind (.ok (afterCaret_suffix cs)) trims_afterSign

theorem foretells_classStart (cs : List Char) :
    Foretells Unclosed cs (classStart verbose cs) (classStart verbose (cs ++ closing)) := by
  have hsign (cs : List Char) : Trims cs (.ok (afterCaret verbose cs) >>= afterSign verbose) :=
    .bind (.ok (afterCaret_suffix cs)) trims_afterSign
  rw [classStart_eq, classStart_eq]
  refine (foretells_skip Never cs).surely (.ok (skip_suffix verbose cs)) hsign (fun cs _ => ?_)
  exact (foretells_afterCaret cs).surely (.ok (afterCaret_suffix cs)) trims_afterSign
    (fun x _ => foretells_afterSign x)

/-! ## Items -/

theorem peekFiller_append (inComment : Bool) (cs : List Char) :
    peekFiller inComment (cs ++ closing) = (peekFiller inComment cs <|> some ')') := by
  fun_induction peekFiller inComment cs with
  | case1 inComment => cases inComment <;> rfl
  | case2 inComment c cs hc ih => rw [List.cons_append, peekFiller, if_pos hc, ih]
  | case3 inComment c cs hc hsign ih => rw [List.cons_append, peekFiller, if_neg hc, if_pos hsign, ih]
  | case4 inComment c cs hc hsign =>
    rw [List.cons_append, peekFiller, if_neg hc, if_neg hsign]
    rfl

/-- Nothing is seen past filler alone. -/
theorem filler_of_peekFiller {inComment : Bool} (h : peekFiller inComment cs = none) :
    ∀ c ∈ cs, Text.isWhiteSpace c ∨ c = '#' := by
  fun_induction peekFiller inComment cs with
  | case1 => nofun
  | case2 inComment c cs hc ih =>
    intro d hd
    obtain rfl | hd := List.mem_cons.mp hd
    · exact .inl hc
    · exact ih h d hd
  | case3 inComment c cs hc hsign ih =>
    intro d hd
    obtain rfl | hd := List.mem_cons.mp hd
    · exact .inr (of_decide_eq_true (Bool.and_eq_true_iff.mp hsign).2)
    · exact ih h d hd
  | case4 => cases h

/-- A bracket or a hyphen past the next character is none that comes behind the pattern. -/
theorem peekPast_append {c : Char} (hc : c = ']' ∨ c = '-') (rest : List Char) :
    peekPast verbose ('-' :: rest ++ closing) = some c ↔ peekPast verbose ('-' :: rest) = some c := by
  have hparen : c ≠ ')' := by
    rintro rfl
    exact absurd hc (by decide)
  have hfiller : ¬ (Text.isWhiteSpace c ∨ c = '#') := by
    obtain rfl | rfl := hc <;> decide
  unfold peekPast
  cases verbose with
  | false =>
    cases rest with
    | nil => exact ⟨fun h => (hparen (Option.some.inj h).symm).elim, nofun⟩
    | cons d rest => exact Iff.rfl
  | true =>
    show (peekFiller false (rest ++ closing) <|> (rest ++ closing).head?) = some c ↔
      (peekFiller false rest <|> rest.head?) = some c
    rw [peekFiller_append]
    cases hpeek : peekFiller false rest with
    | some d => exact Iff.rfl
    | none =>
      refine ⟨fun h => (hparen (Option.some.inj h).symm).elim, fun h => (hfiller ?_).elim⟩
      exact filler_of_peekFiller hpeek c (List.mem_of_mem_head? h)

theorem trims_classPrimitive (cs : List Char) : Trims cs.tail (classPrimitive verbose cs) := by
  unfold classPrimitive
  split
  case h_1 => exact .error _
  case h_2 cs => exact trims_escape cs
  case h_3 c cs _ => exact .ok (List.suffix_refl cs)

theorem foretells_classPrimitive (cs : List Char) :
    Foretells (LateEscape verbose) cs (classPrimitive verbose cs) (classPrimitive verbose (cs ++ closing)) := by
  cases cs with
  | nil =>
    refine .failed _ fun y hy => .inl ?_
    cases hy
    exact List.suffix_refl ['$']
  | cons c cs =>
    rw [List.cons_append]
    by_cases hc : c = '\\'
    · subst hc
      exact (foretells_escape cs).of_suffix (List.suffix_cons _ cs)
    · rw [classPrimitive, classPrimitive]
      · exact .before (Primitive.verbatim c, cs)
      · exact fun heq => hc heq
      · exact fun heq => hc heq

/-- An item that is no range. -/
def soleItem (x : Primitive × List Char) : Parse (ClassTree × List Char) := do
  return (← x.1.toItem, x.2)

/-- A range, from its ends. -/
def rangeTo (first : Primitive) (x : Primitive × List Char) : Parse (ClassTree × List Char) := do
  let first ← first.toEnd
  let last ← x.1.toEnd
  if first.char ≤ last.char then return (.range first last, x.2) else .error .classRange

/-- An item, from the first character of it. -/
def itemFrom (verbose : Bool) (first : Primitive) : List Char → Parse (ClassTree × List Char)
  | [] => .error .classUnclosed
  | '-' :: rest =>
    if peekPast verbose ('-' :: rest) = some ']' ∨ peekPast verbose ('-' :: rest) = some '-' then
      soleItem (first, '-' :: rest)
    else .ok (skip verbose rest) >>= classPrimitive verbose >>= rangeTo first
  | cs => soleItem (first, cs)

theorem itemFrom_of_ne {c : Char} (hc : c ≠ '-') (first : Primitive) (cs : List Char) :
    itemFrom verbose first (c :: cs) = soleItem (first, c :: cs) := by
  rw [itemFrom]
  · nofun
  · exact fun rest heq => hc (List.cons.inj heq).1

theorem classItem_eq (cs : List Char) : classItem verbose cs =
    classPrimitive verbose cs >>= fun x => .ok (skip verbose x.2) >>= itemFrom verbose x.1 := by
  refine congrArg (classPrimitive verbose cs >>= ·) (funext fun x => ?_)
  obtain ⟨first, cs⟩ := x
  show _ = itemFrom verbose first (skip verbose cs)
  dsimp only
  cases skip verbose cs with
  | nil => rfl
  | cons c cs =>
    by_cases hc : c = '-'
    · subst hc
      rw [itemFrom]
      show (if _ then _ else _) = _
      by_cases hnext : peekPast verbose ('-' :: cs) = some ']' ∨ peekPast verbose ('-' :: cs) = some '-'
      · rw [if_pos hnext, if_pos hnext]
        rfl
      · rw [if_neg hnext, if_neg hnext]
        cases skip verbose cs <;> rfl
    · rw [itemFrom_of_ne hc]
      split
      case h_1 heq => cases heq
      case h_2 heq => exact absurd (List.cons.inj heq).1 hc
      case h_3 => rfl

theorem trims_soleItem (x : Primitive × List Char) : Trims x.2 (soleItem x) := by
  unfold soleItem
  cases x.1.toItem with
  | error cause => exact .error cause
  | ok item => exact .ok (List.suffix_refl x.2)

theorem foretells_soleItem (late : ClassTree × List Char → Prop) (x : Primitive × List Char) :
    Foretells late x.2 (soleItem x) (soleItem (more x closing)) := by
  unfold soleItem
  show Foretells late x.2 (x.1.toItem >>= _) (x.1.toItem >>= _)
  cases x.1.toItem with
  | error cause => exact .error cause cause
  | ok item => exact .before (item, x.2)

theorem trims_rangeTo (first : Primitive) (x : Primitive × List Char) : Trims x.2 (rangeTo first x) := by
  unfold rangeTo
  cases first.toEnd with
  | error cause => exact .error cause
  | ok first =>
    cases x.1.toEnd with
    | error cause => exact .error cause
    | ok last =>
      show Trims x.2 (if first.char ≤ last.char then _ else _)
      split
      · exact .ok (List.suffix_refl x.2)
      · exact .error _

theorem foretells_rangeTo (late : ClassTree × List Char → Prop) (first : Primitive) (x : Primitive × List Char) :
    Foretells late x.2 (rangeTo first x) (rangeTo first (more x closing)) := by
  unfold rangeTo
  show Foretells late x.2 (first.toEnd >>= _) (first.toEnd >>= _)
  cases first.toEnd with
  | error cause => exact .error cause cause
  | ok first =>
    show Foretells late x.2 (x.1.toEnd >>= _) (x.1.toEnd >>= _)
    cases x.1.toEnd with
    | error cause => exact .error cause cause
    | ok last =>
      show Foretells late x.2 (if first.char ≤ last.char then _ else _) (if first.char ≤ last.char then _ else _)
      split
      · exact .before (_, x.2)
      · exact .error _ _

theorem trims_itemFrom (first : Primitive) (cs : List Char) : Trims cs (itemFrom verbose first cs) := by
  unfold itemFrom
  split
  case h_1 => exact .error _
  case h_2 rest =>
    split
    · exact trims_soleItem (first, '-' :: rest)
    · refine Trims.of_suffix (.bind (.bind (.ok (skip_suffix verbose rest)) fun cs => ?_) (trims_rangeTo first))
        (List.suffix_cons '-' rest)
      exact (trims_classPrimitive cs).of_suffix (List.tail_suffix cs)
  case h_3 => exact trims_soleItem (first, cs)

/-- An assertion is no end of a range. -/
theorem rangeTo_assertion {first : Primitive} {x : Primitive × List Char} {y : ClassTree × List Char} {a : Assertion}
    (hx : x.1 = .assertion a) : rangeTo first x ≠ .ok y := by
  unfold rangeTo
  rw [hx]
  cases first.toEnd <;> nofun

theorem Late.unclosed {α : Type} [Leaves α] {x : α} (h : Late x) : Unclosed x := h.trans (List.suffix_cons ')' ['$'])

/-- A range ends at the parenthesis, where the pattern holds no end for it. -/
theorem foretells_itemFrom (first : Primitive) (cs : List Char) :
    Foretells Unclosed cs (itemFrom verbose first cs) (itemFrom verbose first (cs ++ closing)) := by
  cases cs with
  | nil => exact .failed _ fun y hy => trims_itemFrom first closing y hy
  | cons c cs =>
    rw [List.cons_append]
    by_cases hc : c = '-'
    case neg =>
      rw [itemFrom_of_ne hc, itemFrom_of_ne hc]
      exact foretells_soleItem Unclosed (first, c :: cs)
    subst hc
    have hbracket : peekPast verbose ('-' :: (cs ++ closing)) = some ']' ↔ peekPast verbose ('-' :: cs) = some ']' :=
      peekPast_append (.inl rfl) cs
    have hhyphen : peekPast verbose ('-' :: (cs ++ closing)) = some '-' ↔ peekPast verbose ('-' :: cs) = some '-' :=
      peekPast_append (.inr rfl) cs
    rw [itemFrom, itemFrom]
    simp only [hbracket, hhyphen]
    split
    · exact foretells_soleItem Unclosed (first, '-' :: cs)
    · have hprimitive (cs : List Char) : Trims cs (classPrimitive verbose cs) :=
        (trims_classPrimitive cs).of_suffix (List.tail_suffix cs)
      have hskip := skip_suffix verbose cs
      refine Foretells.of_suffix ?_ (List.suffix_cons '-' cs)
      refine Foretells.followed ((foretells_skip Never cs).surely (.ok hskip) hprimitive
        (fun cs _ => foretells_classPrimitive cs)) (.bind (.ok hskip) hprimitive)
        (trims_rangeTo first) (fun _ _ => rfl) (fun x _ => foretells_rangeTo Unclosed first x) ?_
      rintro x (hlate | ⟨hx, -⟩) y hy
      · exact Late.unclosed ((trims_rangeTo first x y hy).trans hlate)
      · exact absurd hy (rangeTo_assertion hx)

/-- Nor is it an item. -/
theorem itemFrom_assertion {a : Assertion} {y : ClassTree × List Char} :
    itemFrom verbose (.assertion a) cs ≠ .ok y := by
  unfold itemFrom
  split
  case h_1 => nofun
  case h_2 rest =>
    split
    · nofun
    · cases (Except.ok (skip verbose rest) >>= classPrimitive verbose) <;> nofun
  case h_3 => nofun

/-- At least one character is read. -/
theorem trims_classItem (cs : List Char) : Trims cs.tail (classItem verbose cs) := by
  rw [classItem_eq]
  exact .bind (trims_classPrimitive cs) fun x => .bind (.ok (skip_suffix verbose x.2)) (trims_itemFrom x.1)

theorem classItem_shorter {x : ClassTree × List Char} (h : classItem verbose cs = .ok x) :
    (left x).length < cs.length := by
  cases cs with
  | nil => cases h
  | cons c cs => exact Nat.lt_succ_of_le (trims_classItem (c :: cs) x h).length_le

/-- The last item may take the parenthesis for a part of it. -/
theorem foretells_classItem (cs : List Char) :
    Foretells Unclosed cs (classItem verbose cs) (classItem verbose (cs ++ closing)) := by
  have hitem (x : Primitive × List Char) : Trims x.2 (.ok (skip verbose x.2) >>= itemFrom verbose x.1) :=
    .bind (.ok (skip_suffix verbose x.2)) (trims_itemFrom x.1)
  rw [classItem_eq, classItem_eq]
  refine (foretells_classPrimitive cs).followed ((trims_classPrimitive cs).of_suffix (List.tail_suffix cs)) hitem
    (fun _ _ => rfl) (fun x _ => ?_) ?_
  · exact (foretells_skip Never x.2).surely (.ok (skip_suffix verbose x.2)) (trims_itemFrom x.1)
      (fun cs _ => foretells_itemFrom x.1 cs)
  · rintro x (hlate | ⟨hx, -⟩) y hy
    · exact Late.unclosed ((hitem x y hy).trans hlate)
    · rw [hx] at hy
      exact absurd hy itemFrom_assertion

/-! ## Up to the closing bracket -/

/-- What comes next in a class: the bracket that closes it, one that opens a class in it, an operator or an item. -/
inductive ClassToken
  | close (rest : List Char)
  | opening (rest : List Char)
  | operator (op : SetOperator) (rest : List Char)
  | item (cs : List Char)

instance : Leaves ClassToken where
  left
    | .close rest | .opening rest | .operator _ rest | .item rest => rest
  more
    | .close rest, cs => .close (rest ++ cs)
    | .opening rest, cs => .opening (rest ++ cs)
    | .operator op rest, cs => .operator op (rest ++ cs)
    | .item rest, cs => .item (rest ++ cs)

/-- The token that a class goes on with. -/
def classToken : List Char → ClassToken
  | ']' :: cs => .close cs
  | '[' :: cs => .opening cs
  | '&' :: '&' :: cs => .operator .intersection cs
  | '-' :: '-' :: cs => .operator .difference cs
  | '~' :: '~' :: cs => .operator .symmetricDifference cs
  | cs => .item cs

theorem classToken_append (cs : List Char) : classToken (cs ++ closing) = more (classToken cs) closing := by
  fun_cases classToken cs
  case case6 hclose hopen hand hminus htilde =>
    rw [classToken]
    · rfl
    · exact not_start_append [']'] (by decide) hclose
    · exact not_start_append ['['] (by decide) hopen
    · exact not_start_append ['&', '&'] (by decide) hand
    · exact not_start_append ['-', '-'] (by decide) hminus
    · exact not_start_append ['~', '~'] (by decide) htilde
  all_goals rfl

theorem classToken_suffix (cs : List Char) : left (classToken cs) <:+ cs := by
  fun_cases classToken cs
  case case1 cs => exact List.suffix_cons ']' cs
  case case2 cs => exact List.suffix_cons '[' cs
  case case6 => exact List.suffix_refl cs
  all_goals exact (List.suffix_cons _ _).trans (List.suffix_cons _ _)

theorem classToken_shorter (h : ∀ rest, classToken cs ≠ .item rest) :
    (left (classToken cs)).length < cs.length := by
  revert h
  fun_cases classToken cs
  case case1 cs => exact fun _ => Nat.lt_succ_self cs.length
  case case2 cs => exact fun _ => Nat.lt_succ_self cs.length
  case case6 => exact fun h => (h _ rfl).elim
  all_goals exact fun _ => Nat.lt_succ_of_lt (Nat.lt_succ_self _)

theorem classTail_succ (bound : Nat) (negated : Bool) (items : List ClassTree)
    (pending : Option (SetOperator × ClassTree)) (cs : List Char) :
    classTail verbose (bound + 1) negated items pending cs =
      match classToken (skip verbose cs) with
      | .close cs => .ok (.bracketed negated (combine pending (unionOf items)), cs)
      | .opening cs =>
        (match namedClass? cs with
        | some x => classTail verbose bound negated (x.1 :: items) pending x.2
        | none => classStart verbose cs >>= fun x => classTail verbose bound x.1 x.2.1 none x.2.2 >>= fun x =>
          classTail verbose bound negated (x.1 :: items) pending x.2)
      | .operator op cs => classTail verbose bound negated [] (some (op, combine pending (unionOf items))) cs
      | .item cs => classItem verbose cs >>= fun x => classTail verbose bound negated (x.1 :: items) pending x.2 := by
  rw [classTail]
  generalize skip verbose cs = cs
  fun_cases classToken cs
  case case6 hclose hopen hand hminus htilde =>
    split
    case h_1 => rfl
    case h_2 cs => exact (hclose cs rfl).elim
    case h_3 cs => exact (hopen cs rfl).elim
    case h_4 cs => exact (hand cs rfl).elim
    case h_5 cs => exact (hminus cs rfl).elim
    case h_6 cs => exact (htilde cs rfl).elim
    case h_7 => rfl
  case case2 cs =>
    split
    case h_3 heq =>
      cases heq
      dsimp only
      cases namedClass? _ <;> rfl
    case h_1 heq => cases heq
    case h_7 hopen _ _ _ => exact (hopen cs rfl).elim
    all_goals exact absurd (List.cons.inj ‹_›).1 (by decide)
  all_goals rfl

theorem close_suffix (h : classToken cs = .close rest) : ']' :: rest <:+ cs := by
  revert h
  fun_cases classToken cs
  case case1 cs =>
    intro h
    cases h
    exact List.suffix_refl _
  all_goals nofun

/-- A class ends with a bracket that closes it. -/
theorem classTail_closes {bound : Nat} {negated : Bool} {items : List ClassTree}
    {pending : Option (SetOperator × ClassTree)} {x : ClassTree × List Char}
    (h : classTail verbose bound negated items pending cs = .ok x) : ']' :: left x <:+ cs := by
  induction bound generalizing negated items pending cs x with
  | zero => cases h
  | succ bound ih =>
    refine List.IsSuffix.trans ?_ (skip_suffix verbose cs)
    rw [classTail_succ] at h
    generalize skip verbose cs = cs at h
    have htoken := classToken_suffix cs
    cases hnext : classToken cs with
    | close rest =>
      rw [hnext] at h
      cases h
      exact close_suffix hnext
    | opening rest =>
      rw [hnext] at h htoken
      refine List.IsSuffix.trans ?_ htoken
      dsimp only at h
      cases hname : namedClass? rest with
      | some y =>
        rw [hname] at h
        exact (ih h).trans (namedClass?_suffix hname)
      | none =>
        rw [hname] at h
        obtain ⟨start, hstart, h⟩ := ok_of_bind h
        obtain ⟨y, hy, h⟩ := ok_of_bind h
        have hinner : left y <:+ left start := (List.suffix_cons _ _).trans (ih hy)
        exact (ih h).trans (hinner.trans (trims_classStart rest start hstart))
    | operator op rest =>
      rw [hnext] at h htoken
      exact (ih h).trans htoken
    | item rest =>
      rw [hnext] at h htoken
      obtain ⟨y, hy, h⟩ := ok_of_bind h
      exact (ih h).trans (((trims_classItem rest y hy).trans (List.tail_suffix rest)).trans htoken)

theorem trims_classTail (bound : Nat) (negated : Bool) (items : List ClassTree)
    (pending : Option (SetOperator × ClassTree)) (cs : List Char) :
    Trims cs (classTail verbose bound negated items pending cs) :=
  fun _ hx => (List.suffix_cons _ _).trans (classTail_closes hx)

/-- What comes behind a pattern closes no class. -/
theorem classTail_of_unclosed {bound : Nat} {negated : Bool} {items : List ClassTree}
    {pending : Option (SetOperator × ClassTree)} (hcs : cs <:+ closing) {x : ClassTree × List Char} :
    classTail verbose bound negated items pending cs ≠ .ok x := by
  intro h
  have hbracket : ']' ∈ closing := hcs.subset ((classTail_closes h).subset List.mem_cons_self)
  exact absurd hbracket (by decide)

theorem trims_bracketedClass (cs : List Char) : Trims cs (bracketedClass verbose cs) :=
  .bind (trims_classStart cs) fun x => trims_classTail _ x.1 x.2.1 none x.2.2

theorem classTail_nil (bound : Nat) (negated : Bool) (items : List ClassTree)
    (pending : Option (SetOperator × ClassTree)) :
    classTail verbose bound negated items pending [] = .error .classUnclosed := by
  cases bound with
  | zero => rfl
  | succ bound =>
    rw [classTail_succ, skip_nil]
    rfl

/-- The rest of a class after a member of it that tells what it is in front of what comes behind the pattern. -/
theorem Foretells.then_classTail {late : ClassTree × List Char → Prop} {bound : Nat} {k : Nat} {negated : Bool}
    {items : List ClassTree} {pending : Option (SetOperator × ClassTree)} {r r' : Parse (ClassTree × List Char)}
    (h : Foretells late cs r r') (hr : Trims cs r) (hlate : ∀ x, late x → x.2 <:+ closing)
    (htail : ∀ x, r = .ok x → Foretells Never x.2 (classTail verbose bound negated (x.1 :: items) pending x.2)
      (classTail verbose (bound + k) negated (x.1 :: items) pending (x.2 ++ closing))) :
    Foretells Never cs (r >>= fun x => classTail verbose bound negated (x.1 :: items) pending x.2)
      (r' >>= fun x => classTail verbose (bound + k) negated (x.1 :: items) pending x.2) := by
  refine h.followed hr (fun x => trims_classTail _ _ _ _ x.2) ?_ htail fun x hx y hy => ?_
  · intro x hleft
    have hnil : x.2 = [] := hleft
    rw [hnil, classTail_nil, classTail_nil]
  · exact classTail_of_unclosed (hlate x hx) hy

theorem foretells_classTail {bound : Nat} (k : Nat) (negated : Bool) (items : List ClassTree)
    (pending : Option (SetOperator × ClassTree)) (hbound : cs.length < bound) :
    Foretells Never cs (classTail verbose bound negated items pending cs)
      (classTail verbose (bound + k) negated items pending (cs ++ closing)) := by
  induction bound generalizing negated items pending cs with
  | zero => exact absurd hbound (Nat.not_lt_zero _)
  | succ bound ih =>
    have hskip := skip_suffix verbose cs
    have hlength := hskip.length_le
    rw [Nat.succ_add, classTail_succ, classTail_succ]
    obtain heq | ⟨hnil, hnil', -⟩ := skip_append verbose cs
    case inr =>
      -- A comment at the end of the pattern leaves the class open, whatever comes behind it.
      rw [hnil, hnil']
      exact .error .classUnclosed .classUnclosed
    rw [heq, classToken_append]
    refine Foretells.of_suffix ?_ hskip
    generalize skip verbose cs = cs at hlength
    have htoken := classToken_suffix cs
    have hshorter : (∀ rest, classToken cs ≠ .item rest) → _ := classToken_shorter
    cases hnext : classToken cs with
    | close rest => exact .before (_, rest)
    | opening rest =>
      rw [hnext] at htoken hshorter
      have hrest : rest.length < cs.length := hshorter nofun
      refine Foretells.of_suffix ?_ htoken
      show Foretells Never rest (match namedClass? rest with | some x => _ | none => _)
        (match namedClass? (rest ++ closing) with | some x => _ | none => _)
      rw [namedClass?_append]
      cases hname : namedClass? rest with
      | some y =>
        have hy : y.2 <:+ rest := namedClass?_suffix hname
        have hlength' : y.2.length ≤ rest.length := hy.length_le
        exact (ih negated _ pending (by omega)).of_suffix hy
      | none =>
        -- A class in the class: its opening, its own tail, and then the tail of the class around it.
        refine (foretells_classStart rest).followed (trims_classStart rest) (fun x => ?_) (fun x hleft => ?_)
          (fun x hx => ?_) fun x hlate y hy => ?_
        · exact .bind (trims_classTail _ _ _ _ x.2.2) fun y => trims_classTail _ _ _ _ y.2
        · have hnil : x.2.2 = [] := hleft
          rw [hnil, classTail_nil, classTail_nil]
          rfl
        · have hx := (trims_classStart rest x hx).length_le
          have hinner : Trims x.2.2 (classTail verbose bound x.1 x.2.1 none x.2.2) := trims_classTail _ _ _ _ _
          refine (ih x.1 x.2.1 none (by omega)).then_classTail hinner (fun _ => False.elim) fun y hy => ?_
          have hy : y.2.length ≤ x.2.2.length := (hinner y hy).length_le
          have hx : x.2.2.length ≤ rest.length := hx
          exact ih negated (y.1 :: items) pending (by omega)
        · obtain ⟨z, hz, -⟩ := ok_of_bind hy
          exact (classTail_of_unclosed hlate hz).elim
    | operator op rest =>
      rw [hnext] at htoken hshorter
      have hrest : rest.length < cs.length := hshorter nofun
      exact (ih negated _ _ (by omega)).of_suffix htoken
    | item rest =>
      rw [hnext] at htoken
      have hrest : rest.length ≤ cs.length := htoken.length_le
      have hitem : Trims rest (classItem verbose rest) := (trims_classItem rest).of_suffix (List.tail_suffix rest)
      refine ((foretells_classItem rest).then_classTail hitem (fun _ hlate => hlate) fun x hx => ?_).of_suffix htoken
      have hx : x.2.length < rest.length := classItem_shorter hx
      exact ih negated (x.1 :: items) pending (by omega)

/-- What comes behind a pattern makes no difference to a class. -/
theorem foretells_bracketedClass (cs : List Char) :
    Foretells Never cs (bracketedClass verbose cs) (bracketedClass verbose (cs ++ closing)) := by
  refine (foretells_classStart cs).followed (trims_classStart cs) (fun x => trims_classTail _ _ _ _ x.2.2)
    (fun _ _ => rfl) (fun x _ => ?_) fun x hlate y hy => classTail_of_unclosed hlate hy
  have hlength : (more x closing).2.2.length + 1 = x.2.2.length + 1 + 2 := fuel_closing x.2.2
  show Foretells Never x.2.2 (classTail verbose (x.2.2.length + 1) x.1 x.2.1 none x.2.2)
    (classTail verbose ((more x closing).2.2.length + 1) x.1 x.2.1 none (x.2.2 ++ closing))
  rw [hlength]
  exact foretells_classTail 2 x.1 x.2.1 none (Nat.lt_succ_self _)

end ScenarioStubs.Regex
