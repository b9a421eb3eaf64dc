import ScenarioStubs.Proofs.Regex.Repetitions

/-!
# Reading patterns with something behind them

What a pattern writes is read alike in front of a closing parenthesis (`foretells_expression`): each token that opens
or closes nothing changes the parts before it alike (`foretells_partsAfter`), and a group in the pattern ends at its own
parenthesis (`Continues.foretells_opened`).
-/

namespace ScenarioStubs.Regex

variable {verbose : Bool} {cs rest : List Char}

/-! ## Parts -/

/-- The parts with the last of them repeated, after the sign for it. -/
def repeatedParts (parts : List Ast) (least : Nat) (most : Option Nat) (cs : List Char) :
    Parse (List Ast × List Char) := do
  return (← repeatLast parts least most (greed cs).1, (greed cs).2)

/-- What an escape writes. -/
def Primitive.toAst : Primitive → Ast
  | .literal l => .literal l
  | .dot => .dot
  | .assertion a => .assertion a
  | .klass c => .klass c

/-- The parts after a token that is neither a parenthesis nor a bar, of which the first character is given. -/
def partsAfter (verbose : Bool) (parts : List Ast) (c : Char) (cs : List Char) : Parse (List Ast × List Char) :=
  match c with
  | '[' => (bracketedClass verbose cs).map fun x => (.klass x.1 :: parts, x.2)
  | '?' => repeatedParts parts 0 (some 1) cs
  | '*' => repeatedParts parts 0 none cs
  | '+' => repeatedParts parts 1 none cs
  | '\x7b' => bounds verbose cs >>= fun x => .ok (skip verbose x.2) >>= repeatedParts parts x.1.1 x.1.2
  | '.' => .ok (.dot :: parts, cs)
  | '^' => .ok (.assertion .lineStart :: parts, cs)
  | '$' => .ok (.assertion .lineEnd :: parts, cs)
  | '\\' => (escape verbose cs).map fun x => (x.1.toAst :: parts, x.2)
  | c => .ok (.literal ⟨c, false⟩ :: parts, cs)

theorem trims_repeatedParts (parts : List Ast) (least : Nat) (most : Option Nat) (cs : List Char) :
    Trims cs (repeatedParts parts least most cs) := by
  unfold repeatedParts
  cases repeatLast parts least most (greed cs).1 with
  | error cause => exact .error cause
  | ok parts => exact .ok (greed_suffix cs)

theorem foretells_repeatedParts (late : List Ast × List Char → Prop) (parts : List Ast) (least : Nat)
    (most : Option Nat) (cs : List Char) :
    Foretells late cs (repeatedParts parts least most cs) (repeatedParts parts least most (cs ++ closing)) := by
  unfold repeatedParts
  rw [greed_append]
  show Foretells late cs (repeatLast parts least most (greed cs).1 >>= _)
    (repeatLast parts least most (greed cs).1 >>= _)
  cases repeatLast parts least most (greed cs).1 with
  | error cause => exact .error cause cause
  | ok parts => exact .before (parts, (greed cs).2)

theorem trims_partsAfter (parts : List Ast) (c : Char) (cs : List Char) : Trims cs (partsAfter verbose parts c cs) := by
  unfold partsAfter
  split
  case h_1 => exact .map (fun _ => rfl) (trims_bracketedClass cs)
  case h_2 | h_3 | h_4 => exact trims_repeatedParts parts _ _ cs
  case h_5 =>
    exact .bind (trims_bounds cs) fun x => .bind (.ok (skip_suffix verbose x.2)) (trims_repeatedParts parts x.1.1 x.1.2)
  case h_9 => exact .map (fun _ => rfl) (trims_escape cs)
  all_goals exact .ok (List.suffix_refl cs)

/-- Reading goes beyond the parenthesis, or stops at a brace that cannot bound a repetition. -/
def LatePart (verbose : Bool) (x : List Ast × List Char) : Prop := Late x ∨ Dangling verbose x.2

theorem foretells_partsAfter (parts : List Ast) (c : Char) (cs : List Char) :
    Foretells (LatePart verbose) cs (partsAfter verbose parts c cs) (partsAfter verbose parts c (cs ++ closing)) := by
  unfold partsAfter
  split
  case h_1 => exact (foretells_bracketedClass cs).map (fun _ => rfl) (fun _ => rfl) fun _ hlate => hlate.elim
  case h_2 | h_3 | h_4 => exact foretells_repeatedParts _ parts _ _ cs
  case h_5 =>
    refine (foretells_bounds cs).surely (trims_bounds cs)
      (fun x => .bind (.ok (skip_suffix verbose x.2)) (trims_repeatedParts parts x.1.1 x.1.2)) fun x _ => ?_
    exact (foretells_skip Never x.2).surely (.ok (skip_suffix verbose x.2)) (trims_repeatedParts parts x.1.1 x.1.2)
      fun cs _ => foretells_repeatedParts _ parts x.1.1 x.1.2 cs
  case h_9 =>
    refine (foretells_escape cs).map (fun _ => rfl) (fun _ => rfl) fun x hlate => ?_
    exact hlate.imp id And.right
  all_goals exact .before (_, cs)

/-! ## Groups -/

/-- An expression from where it has been read to. -/
abbrev Reader := List Ast → List Ast → Cursor → Parse (Ast × Cursor)

/-- The expression after a group, from what was read up to the end of its body. -/
def closed (expr : Reader) (branches parts : List Ast) (verbose : Bool) (capture : Option Nat) (changes : FlagChanges)
    (x : Ast × Cursor) : Parse (Ast × Cursor) :=
  match x.2.rest with
  | ')' :: cs =>
    expr branches (.group capture changes x.1 :: parts) { x.2 with rest := cs, verbose := verbose }
  | _ => .error .groupUnclosed

/-- The expression from the body of a group on. -/
def grouped (expr : Reader) (branches parts : List Ast) (st : Cursor) (cs : List Char) (capture : Option Nat)
    (changes : FlagChanges) (names : List String) : Parse (Ast × Cursor) :=
  let inner := (setting? .ignoreWhiteSpace changes).getD st.verbose
  let captures := if capture.isSome then st.captures + 1 else st.captures
  expr [] [] ⟨cs, inner, captures, names⟩ >>= closed expr branches parts st.verbose capture changes

/-- The expression after the start of a group. -/
def opened (expr : Reader) (branches parts : List Ast) (st : Cursor) (x : GroupStart × List Char) :
    Parse (Ast × Cursor) :=
  match x.1 with
  | .flags changes =>
    expr branches (.flags changes :: parts)
      { st with rest := x.2, verbose := (setting? .ignoreWhiteSpace changes).getD st.verbose }
  | .plain changes => grouped expr branches parts st x.2 none changes st.names
  | .capture none => grouped expr branches parts st x.2 (some st.captures) [] st.names
  | .capture (some name) =>
    if st.names.contains name then .error .groupName
    else grouped expr branches parts st x.2 (some st.captures) [] (name :: st.names)

/-- What is left is an end of what the cursor stands before. -/
def Trimming (expr : Reader) : Prop := ∀ branches parts st, Trims st.rest (expr branches parts st)

section Groups

variable {bound : Nat} {expr expr' : Reader} {branches parts : List Ast} {capture : Option Nat}
  {changes : FlagChanges} {x : Ast × Cursor}

theorem trims_closed (h : Trimming expr) :
    Trims (left x).tail (closed expr branches parts verbose capture changes x) := by
  unfold closed
  split
  case h_1 cs hrest =>
    have hleft : (left x).tail = cs := congrArg List.tail hrest
    rw [hleft]
    exact h _ _ _
  case h_2 => exact .error _

theorem closed_of_left (h : ∀ cs, left x ≠ ')' :: cs) :
    closed expr branches parts verbose capture changes x = .error .groupUnclosed := by
  unfold closed
  split
  case h_1 cs hrest => exact (h cs hrest).elim
  case h_2 => rfl

theorem closed_paren (h : left x = ')' :: cs) : closed expr branches parts verbose capture changes x =
    expr branches (.group capture changes x.1 :: parts) { x.2 with rest := cs, verbose := verbose } := by
  obtain ⟨body, rest, isVerbose, captures, names⟩ := x
  obtain rfl : rest = ')' :: cs := h
  rfl

theorem closed_nil (h : left x = []) :
    closed expr branches parts verbose capture changes x = .error .groupUnclosed :=
  closed_of_left fun cs heq => List.cons_ne_nil _ cs (heq.symm.trans h)

theorem trims_grouped (h : Trimming expr) (st : Cursor) (cs : List Char) (names : List String) :
    Trims cs (grouped expr branches parts st cs capture changes names) :=
  .bind (h [] [] ⟨cs, _, _, names⟩) fun x => (trims_closed h).of_suffix (List.tail_suffix (left x))

theorem trims_opened (h : Trimming expr) (st : Cursor) (x : GroupStart × List Char) :
    Trims x.2 (opened expr branches parts st x) := by
  unfold opened
  split
  case h_1 => exact h _ _ _
  case h_2 => exact trims_grouped h st x.2 _
  case h_3 => exact trims_grouped h st x.2 _
  case h_4 =>
    split
    · exact .error _
    · exact trims_grouped h st x.2 _

section Agreeing

variable (h : ∀ branches parts st, st.rest.length < bound → expr branches parts st = expr' branches parts st)
include h

theorem closed_congr (hx : (left x).length ≤ bound) :
    closed expr branches parts verbose capture changes x = closed expr' branches parts verbose capture changes x := by
  by_cases hparen : ∃ cs, left x = ')' :: cs
  · obtain ⟨cs, hleft⟩ := hparen
    rw [hleft] at hx
    rw [closed_paren hleft, closed_paren hleft]
    exact h _ _ _ hx
  · have hother : ∀ cs, left x ≠ ')' :: cs := fun cs hleft => hparen ⟨cs, hleft⟩
    rw [closed_of_left hother, closed_of_left hother]

theorem grouped_congr (htrims : Trimming expr') (st : Cursor) (names : List String) (hcs : cs.length < bound) :
    grouped expr branches parts st cs capture changes names =
      grouped expr' branches parts st cs capture changes names := by
  unfold grouped
  dsimp only
  rw [h [] [] ⟨cs, _, _, names⟩ hcs]
  refine bind_congr_ok fun x hx => closed_congr h ?_
  exact Nat.le_of_lt (Nat.lt_of_le_of_lt (htrims [] [] ⟨cs, _, _, names⟩ x hx).length_le hcs)

theorem opened_congr (htrims : Trimming expr') (st : Cursor) {x : GroupStart × List Char} (hx : x.2.length < bound) :
    opened expr branches parts st x = opened expr' branches parts st x := by
  obtain ⟨start, cs⟩ := x
  cases start with
  | flags changes => exact h _ _ { st with rest := cs, verbose := _ } hx
  | plain changes => exact grouped_congr h htrims st _ hx
  | capture name =>
    cases name with
    | none => exact grouped_congr h htrims st _ hx
    | some name =>
      unfold opened
      dsimp only
      split
      · rfl
      · exact grouped_congr h htrims st _ hx

end Agreeing

end Groups

/-! ## Steps -/

section Steps

variable {bound : Nat} {branches parts : List Ast} {st : Cursor}

theorem expression_nil (hskip : skip st.verbose st.rest = []) : expression (bound + 1) branches parts st =
    .ok (alternationOf (concatOf parts :: branches), { st with rest := [] }) := by
  rw [expression, hskip]

theorem expression_close (hskip : skip st.verbose st.rest = ')' :: cs) : expression (bound + 1) branches parts st =
    .ok (alternationOf (concatOf parts :: branches), { st with rest := ')' :: cs }) := by
  rw [expression, hskip]
  rfl

theorem expression_bar (hskip : skip st.verbose st.rest = '|' :: cs) : expression (bound + 1) branches parts st =
    expression bound (concatOf parts :: branches) [] { st with rest := cs } := by
  rw [expression, hskip]
  rfl

theorem expression_open (hskip : skip st.verbose st.rest = '(' :: cs) : expression (bound + 1) branches parts st =
    groupStart st.verbose cs >>= opened (expression bound) branches parts st := by
  rw [expression, hskip]
  show groupStart st.verbose cs >>= _ = _
  refine congrArg (groupStart st.verbose cs >>= ·) (funext fun x => ?_)
  obtain ⟨start, cs⟩ := x
  cases start with
  | flags changes => rfl
  | plain changes => rfl
  | capture name =>
    cases name <;> rfl

/-- One more token that is neither a parenthesis nor a bar. -/
theorem expression_cons {c : Char} (hskip : skip st.verbose st.rest = c :: cs) (hclose : c ≠ ')') (hbar : c ≠ '|')
    (hopen : c ≠ '(') : expression (bound + 1) branches parts st =
      partsAfter st.verbose parts c cs >>= fun x => expression bound branches x.1 { st with rest := x.2 } := by
  have hrepeated (least : Nat) (most : Option Nat) (cs : List Char) :
      (repeatedParts parts least most cs >>= fun x => expression bound branches x.1 { st with rest := x.2 }) =
        repeatLast parts least most (greed cs).1 >>= fun parts =>
          expression bound branches parts { st with rest := (greed cs).2 } := by
    unfold repeatedParts
    cases repeatLast parts least most (greed cs).1 <;> rfl
  rw [expression, hskip]
  split
  case h_1 heq => cases heq
  case h_2 heq => exact (hclose (List.cons.inj heq).1).elim
  case h_3 heq => exact (hbar (List.cons.inj heq).1).elim
  case h_4 heq => exact (hopen (List.cons.inj heq).1).elim
  case h_5 heq =>
    cases heq
    show _ = (bracketedClass st.verbose cs).map _ >>= _
    cases bracketedClass st.verbose cs <;> rfl
  case h_6 heq | h_7 heq | h_8 heq =>
    cases heq
    exact (hrepeated _ _ cs).symm
  case h_9 heq =>
    cases heq
    show _ = bounds st.verbose cs >>= _ >>= _
    cases bounds st.verbose cs with
    | error cause => rfl
    | ok x => exact (hrepeated x.1.1 x.1.2 (skip st.verbose x.2)).symm
  case h_13 heq =>
    cases heq
    show _ = (escape st.verbose cs).map _ >>= _
    cases escape st.verbose cs with
    | error cause => rfl
    | ok x =>
      obtain ⟨primitive, cs⟩ := x
      cases primitive <;> rfl
  case h_14 heq =>
    cases heq
    rw [partsAfter]
    · rfl
    all_goals assumption
  all_goals
    cases ‹_ :: _ = _›
    rfl

end Steps

theorem trims_expression (bound : Nat) : Trimming (expression bound) := by
  induction bound with
  | zero => exact fun _ _ _ => .error _
  | succ bound ih =>
    intro branches parts st
    refine Trims.of_suffix ?_ (skip_suffix st.verbose st.rest)
    cases hskip : skip st.verbose st.rest with
    | nil =>
      rw [expression_nil hskip]
      exact .ok (List.suffix_refl [])
    | cons c cs =>
      have hcs := List.suffix_cons c cs
      by_cases hclose : c = ')'
      · subst hclose
        rw [expression_close hskip]
        exact .ok (List.suffix_refl _)
      by_cases hbar : c = '|'
      · subst hbar
        rw [expression_bar hskip]
        exact (ih _ _ { st with rest := cs }).of_suffix hcs
      by_cases hopen : c = '('
      · subst hopen
        rw [expression_open hskip]
        exact Trims.of_suffix (.bind (trims_groupStart cs) (trims_opened ih st)) hcs
      · rw [expression_cons hskip hclose hbar hopen]
        exact Trims.of_suffix (.bind (trims_partsAfter parts c cs) fun x => ih _ x.1 { st with rest := x.2 }) hcs

/-- As much fuel as there are characters is enough. -/
theorem expression_fuel {bound : Nat} (k : Nat) (branches parts : List Ast) (st : Cursor)
    (hbound : st.rest.length < bound) :
    expression (bound + k) branches parts st = expression bound branches parts st := by
  induction bound generalizing branches parts st with
  | zero => exact absurd hbound (Nat.not_lt_zero _)
  | succ bound ih =>
    have hlength := (skip_suffix st.verbose st.rest).length_le
    rw [Nat.succ_add]
    cases hskip : skip st.verbose st.rest with
    | nil => rw [expression_nil hskip, expression_nil hskip]
    | cons c cs =>
      rw [hskip, List.length_cons] at hlength
      have hlt : cs.length < bound := by omega
      by_cases hclose : c = ')'
      · subst hclose
        rw [expression_close hskip, expression_close hskip]
      by_cases hbar : c = '|'
      · subst hbar
        rw [expression_bar hskip, expression_bar hskip]
        exact ih _ _ { st with rest := cs } hlt
      by_cases hopen : c = '('
      · subst hopen
        rw [expression_open hskip, expression_open hskip]
        refine bind_congr_ok fun x hx => opened_congr ih (trims_expression bound) st ?_
        exact Nat.lt_of_le_of_lt (trims_groupStart cs x hx).length_le hlt
      · rw [expression_cons hskip hclose hbar hopen, expression_cons hskip hclose hbar hopen]
        refine bind_congr_ok fun x hx => ih branches x.1 { st with rest := x.2 } ?_
        exact Nat.lt_of_le_of_lt (trims_partsAfter parts c cs x hx).length_le hlt

/-! ## Groups with something behind them -/

/-- What it takes of readers for the groups that they read: each leaves an end of the pattern, and up to a number of
characters they do the same and the one tells what the other does in front of what closes the pattern. -/
structure Continues (bound : Nat) (expr expr' : Reader) : Prop where
  trims : Trimming expr
  trims' : Trimming expr'
  agree : ∀ branches parts st, st.rest.length < bound → expr branches parts st = expr' branches parts st
  foretells : ∀ branches parts st, st.rest.length < bound →
    Foretells Late st.rest (expr branches parts st) (expr' branches parts (more st closing))

section Continuing

variable {bound : Nat} {expr expr' : Reader} {branches parts : List Ast} {capture : Option Nat}
  {changes : FlagChanges} {x : Ast × Cursor}

namespace Continues

variable (h : Continues bound expr expr')
include h

/-- A group that is open at the end of a pattern is closed by the parenthesis. -/
theorem foretells_closed (hx : (left x).length ≤ bound) :
    Foretells Late (left x) (closed expr branches parts verbose capture changes x)
      (closed expr' branches parts verbose capture changes (more x closing)) := by
  have hmore : left (more x closing) = left x ++ closing := rfl
  cases hleft : left x with
  | nil =>
    rw [hleft] at hmore
    rw [closed_nil hleft]
    refine .failed _ fun y hy => ?_
    have hy := trims_closed h.trims' y hy
    rw [hmore] at hy
    exact hy
  | cons c cs =>
    rw [hleft] at hmore hx
    by_cases hc : c = ')'
    · subst hc
      rw [closed_paren hleft, closed_paren hmore]
      exact (h.foretells _ _ { x.2 with rest := cs, verbose := verbose } hx).of_suffix (List.suffix_cons ')' cs)
    · have hother : ∀ cs', left x ≠ ')' :: cs' := fun cs' heq =>
        hc (List.cons.inj (hleft.symm.trans heq)).1
      have hother' : ∀ cs', left (more x closing) ≠ ')' :: cs' := fun cs' heq =>
        hc (List.cons.inj (hmore.symm.trans heq)).1
      rw [closed_of_left hother, closed_of_left hother']
      exact .error _ _

theorem foretells_grouped (st : Cursor) (names : List String) (hcs : cs.length < bound) :
    Foretells Late cs (grouped expr branches parts st cs capture changes names)
      (grouped expr' branches parts st (cs ++ closing) capture changes names) := by
  have htrims (x : Ast × Cursor) :
      Trims (left x) (closed expr' branches parts st.verbose capture changes x) :=
    (trims_closed h.trims').of_suffix (List.tail_suffix (left x))
  refine (h.foretells [] [] ⟨cs, _, _, names⟩ hcs).followed (h.trims [] [] ⟨cs, _, _, names⟩) htrims
    (fun x hleft => (closed_nil hleft).trans (closed_nil hleft).symm) (fun x hx => h.foretells_closed ?_)
    fun x hlate y hy => (htrims x y hy).trans hlate
  exact Nat.le_of_lt (Nat.lt_of_le_of_lt (h.trims [] [] ⟨cs, _, _, names⟩ x hx).length_le hcs)

theorem foretells_opened (st : Cursor) {x : GroupStart × List Char} (hx : x.2.length < bound) :
    Foretells Late x.2 (opened expr branches parts st x) (opened expr' branches parts st (more x closing)) := by
  obtain ⟨start, cs⟩ := x
  cases start with
  | flags changes => exact h.foretells _ _ { st with rest := cs, verbose := _ } hx
  | plain changes => exact h.foretells_grouped st _ hx
  | capture name =>
    cases name with
    | none => exact h.foretells_grouped st _ hx
    | some name =>
      unfold opened
      dsimp only [more]
      split
      · exact .error _ _
      · exact h.foretells_grouped st _ hx

/-- An opening parenthesis, and the group behind it. -/
theorem foretells_start (st : Cursor) (hcs : cs.length < bound) :
    Foretells Late cs (groupStart st.verbose cs >>= opened expr branches parts st)
      (groupStart st.verbose (cs ++ closing) >>= opened expr' branches parts st) := by
  have htrims (x : GroupStart × List Char) : Trims (left x) (opened expr' branches parts st x) :=
    trims_opened h.trims' st x
  refine (foretells_groupStart cs).followed (trims_groupStart cs) htrims (fun x hleft => ?_)
    (fun x hx => h.foretells_opened st ?_) fun x hlate y hy => (htrims x y hy).trans hlate
  · have hnil : x.2 = [] := hleft
    exact opened_congr h.agree h.trims' st (hnil ▸ Nat.zero_lt_of_lt hcs)
  · exact Nat.lt_of_le_of_lt (trims_groupStart cs x hx).length_le hcs

end Continues

end Continuing

/-! ## Whole patterns -/

/-- A brace before what comes behind a pattern bounds no repetition. -/
theorem expression_of_dangling {bound : Nat} {branches parts : List Ast} {st : Cursor}
    (h : Dangling st.verbose st.rest) {x : Ast × Cursor} : expression bound branches parts st ≠ .ok x := by
  obtain ⟨blanks, hrest, hblanks⟩ := h
  cases bound with
  | zero => nofun
  | succ bound =>
    have hskip : skip st.verbose st.rest = '\x7b' :: blanks := by
      rw [hrest]
      cases st.verbose <;> rfl
    rw [expression_cons hskip (by decide) (by decide) (by decide)]
    show bounds st.verbose blanks >>= _ >>= _ ≠ _
    rw [bounds_of_closing hblanks]
    nofun

theorem continues_expression {bound : Nat} (k : Nat)
    (h : ∀ branches parts st, st.rest.length < bound → Foretells Late st.rest (expression bound branches parts st)
      (expression (bound + k) branches parts (more st closing))) :
    Continues bound (expression bound) (expression (bound + k)) where
  trims := trims_expression bound
  trims' := trims_expression (bound + k)
  agree branches parts st hst := (expression_fuel k branches parts st hst).symm
  foretells := h

/-- Parts of a pattern that start with a given character, and the pattern behind them. -/
theorem foretells_parts {bound k : Nat} {branches parts : List Ast} (st : Cursor) (c : Char)
    (h : Continues bound (expression bound) (expression (bound + k))) (hcs : cs.length < bound) :
    Foretells Late cs
      (partsAfter st.verbose parts c cs >>= fun x => expression bound branches x.1 { st with rest := x.2 })
      (partsAfter st.verbose parts c (cs ++ closing) >>= fun x =>
        expression (bound + k) branches x.1 { st with rest := x.2 }) := by
  have htrims (x : List Ast × List Char) :
      Trims (left x) (expression (bound + k) branches x.1 { st with rest := x.2 }) :=
    h.trims' branches x.1 { st with rest := x.2 }
  refine (foretells_partsAfter parts c cs).followed (trims_partsAfter parts c cs) htrims (fun x hleft => ?_)
    (fun x hx => h.foretells branches x.1 { st with rest := x.2 } ?_) ?_
  · have hnil : x.2 = [] := hleft
    exact h.agree branches x.1 { st with rest := x.2 } (hnil ▸ Nat.zero_lt_of_lt hcs)
  · exact Nat.lt_of_le_of_lt (trims_partsAfter parts c cs x hx).length_le hcs
  · -- A part that ends before a brace has been read, but nothing can be read from the brace on.
    rintro x (hlate | hdangling) y hy
    · exact (htrims x y hy).trans hlate
    · exact absurd hy (expression_of_dangling hdangling)

/-- **Patterns in front of a parenthesis.** What a pattern writes is read alike in front of what closes it, or a comment
hides that; and no pattern that cannot be read is mended before the parenthesis. -/
theorem foretells_expression {bound : Nat} (k : Nat) (branches parts : List Ast) (st : Cursor)
    (hbound : st.rest.length < bound) : Foretells Late st.rest (expression bound branches parts st)
      (expression (bound + k) branches parts (more st closing)) := by
  induction bound generalizing branches parts st with
  | zero => exact absurd hbound (Nat.not_lt_zero _)
  | succ bound ih =>
    have hsuffix := skip_suffix st.verbose st.rest
    have hlength := hsuffix.length_le
    rw [Nat.succ_add]
    obtain heq | ⟨hnil, hnil', hcomment⟩ := skip_append st.verbose st.rest
    case inr =>
      -- A comment is open at the end, and it goes on behind the pattern.
      have hnil' : skip (more st closing).verbose (more st closing).rest = [] := hnil'
      rw [expression_nil hnil, expression_nil hnil']
      exact .hidden rfl hcomment
    have heq : skip (more st closing).verbose (more st closing).rest = skip st.verbose st.rest ++ closing := heq
    refine Foretells.of_suffix ?_ hsuffix
    cases hskip : skip st.verbose st.rest with
    | nil =>
      -- Where the pattern ends, reading on stops at the parenthesis.
      rw [hskip] at heq
      rw [expression_nil hskip, expression_close heq]
      exact .before (_, { st with rest := [] })
    | cons c cs =>
      rw [hskip] at heq hlength
      have hcs := List.suffix_cons c cs
      have hlt : cs.length < bound := by
        rw [List.length_cons] at hlength
        omega
      have hcontinues : Continues bound (expression bound) (expression (bound + k)) :=
        continues_expression k ih
      by_cases hclose : c = ')'
      · subst hclose
        rw [expression_close hskip, expression_close heq]
        exact .before (_, { st with rest := ')' :: cs })
      by_cases hbar : c = '|'
      · subst hbar
        rw [expression_bar hskip, expression_bar heq]
        exact (ih _ _ { st with rest := cs } hlt).of_suffix hcs
      by_cases hopen : c = '('
      · subst hopen
        rw [expression_open hskip, expression_open heq]
        exact (hcontinues.foretells_start st hlt).of_suffix hcs
      · rw [expression_cons hskip hclose hbar hopen, expression_cons heq hclose hbar hopen]
        exact (foretells_parts st c hcontinues hlt).of_suffix hcs

end ScenarioStubs.Regex
