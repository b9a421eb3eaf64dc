import ScenarioStubs.Proofs.Regex.Parsing
import ScenarioStubs.Proofs.Regex.Search
import ScenarioStubs.Regex.Basic

/-!
# Parsed repetitions are in order

A pattern cannot ask for more copies at least than at most: this is refused when the counts are read
(`ordered_bounds`). So the expression of every pattern that is read is ordered (`Ast.Ordered.toExpr`), and searching a
text for it finds what it matches (`isMatch_iff_of_compile`).
-/

namespace ScenarioStubs.Regex

/-- No repetition asks for more copies at least than at most. -/
inductive Ast.Ordered : Ast → Prop
  | empty : Ordered .empty
  | flags (changes : FlagChanges) : Ordered (.flags changes)
  | literal (l : Literal) : Ordered (.literal l)
  | dot : Ordered .dot
  | assertion (a : Assertion) : Ordered (.assertion a)
  | klass (c : ClassTree) : Ordered (.klass c)
  | repetition {body : Ast} {min : Nat} {max : Option Nat} {greedy : Bool} (h : Ordered body)
      (hmax : ∀ most, max = some most → min ≤ most) : Ordered (.repetition body min max greedy)
  | group {capture : Option Nat} {changes : FlagChanges} {body : Ast} (h : Ordered body) :
      Ordered (.group capture changes body)
  | concat {parts : List Ast} (h : ∀ a ∈ parts, Ordered a) : Ordered (.concat parts)
  | alternation {branches : List Ast} (h : ∀ a ∈ branches, Ordered a) : Ordered (.alternation branches)

/-! ## What is parsed is ordered -/

section Parsed

variable {verbose : Bool} {cs : List Char} {parts branches : List Ast}

theorem ordered_bounds {x : (Nat × Option Nat) × List Char} (h : bounds verbose cs = .ok x) :
    ∀ most, x.1.2 = some most → x.1.1 ≤ most := by
  rw [bounds_eq] at h
  obtain ⟨n, -, h⟩ := ok_of_bind h
  unfold afterCount at h
  split at h
  case h_1 =>
    cases h
    exact fun most hmost => Option.some.inj hmost ▸ Nat.le_refl _
  case h_2 =>
    obtain ⟨cs, -, h⟩ := ok_of_bind h
    unfold afterComma at h
    split at h
    case h_1 =>
      cases h
      nofun
    case h_2 =>
      obtain ⟨m, -, h⟩ := ok_of_bind h
      unfold greatest at h
      split at h
      case h_1 =>
        split at h
        case isTrue hle =>
          cases h
          exact fun most hmost => Option.some.inj hmost ▸ hle
        case isFalse => cases h
      case h_2 => cases h
  case h_3 => cases h

theorem ordered_repeatedParts {least : Nat} {most : Option Nat} (hbounds : ∀ n, most = some n → least ≤ n)
    (hparts : ∀ a ∈ parts, a.Ordered) {x : List Ast × List Char} (h : repeatedParts parts least most cs = .ok x) :
    ∀ a ∈ x.1, a.Ordered := by
  obtain ⟨parts', hrepeat, h⟩ := ok_of_bind h
  cases h
  unfold repeatLast at hrepeat
  split at hrepeat
  case h_4 =>
    cases hrepeat
    obtain ⟨hlast, hbefore⟩ := List.forall_mem_cons.mp hparts
    exact List.forall_mem_cons.mpr ⟨.repetition hlast hbounds, hbefore⟩
  all_goals cases hrepeat

theorem Primitive.ordered_toAst (p : Primitive) : p.toAst.Ordered := by
  cases p with
  | literal l => exact .literal l
  | dot => exact .dot
  | assertion a => exact .assertion a
  | klass c => exact .klass c

theorem ordered_partsAfter (hparts : ∀ a ∈ parts, a.Ordered) {c : Char} {x : List Ast × List Char}
    (h : partsAfter verbose parts c cs = .ok x) : ∀ a ∈ x.1, a.Ordered := by
  have hcons {a : Ast} (ha : a.Ordered) : ∀ b ∈ a :: parts, b.Ordered := List.forall_mem_cons.mpr ⟨ha, hparts⟩
  unfold partsAfter at h
  split at h
  case h_1 =>
    obtain ⟨y, -, rfl⟩ := ok_of_map h
    exact hcons (.klass _)
  case h_2 => exact ordered_repeatedParts (fun n hn => Nat.zero_le n) hparts h
  case h_3 => exact ordered_repeatedParts (fun _ hnone => by cases hnone) hparts h
  case h_4 => exact ordered_repeatedParts (fun _ hnone => by cases hnone) hparts h
  case h_5 =>
    obtain ⟨y, hy, h⟩ := ok_of_bind h
    obtain ⟨cs, -, h⟩ := ok_of_bind h
    exact ordered_repeatedParts (ordered_bounds hy) hparts h
  case h_6 =>
    cases h
    exact hcons .dot
  case h_7 | h_8 =>
    cases h
    exact hcons (.assertion _)
  case h_9 =>
    obtain ⟨y, -, rfl⟩ := ok_of_map h
    exact hcons y.1.ordered_toAst
  case h_10 =>
    cases h
    exact hcons (.literal _)

theorem ordered_concatOf (h : ∀ a ∈ parts, a.Ordered) : (concatOf parts).Ordered := by
  unfold concatOf
  split
  case h_1 => exact .empty
  case h_2 part => exact h part List.mem_cons_self
  case h_3 => exact .concat fun a ha => h a (List.mem_reverse.mp ha)

theorem ordered_alternationOf (h : ∀ a ∈ branches, a.Ordered) : (alternationOf branches).Ordered := by
  unfold alternationOf
  split
  case h_1 => exact .empty
  case h_2 branch => exact h branch List.mem_cons_self
  case h_3 => exact .alternation fun a ha => h a (List.mem_reverse.mp ha)

/-- Whatever is ordered so far stays so. -/
def KeepsOrder (expr : Reader) : Prop := ∀ branches parts st x, (∀ a ∈ branches, a.Ordered) → (∀ a ∈ parts, a.Ordered) →
  expr branches parts st = .ok x → x.1.Ordered

theorem KeepsOrder.grouped {expr : Reader} (hexpr : KeepsOrder expr) (hbranches : ∀ a ∈ branches, a.Ordered)
    (hparts : ∀ a ∈ parts, a.Ordered) {st : Cursor} {capture : Option Nat} {changes : FlagChanges}
    {names : List String} {x : Ast × Cursor} (h : grouped expr branches parts st cs capture changes names = .ok x) :
    x.1.Ordered := by
  obtain ⟨body, hbody, h⟩ := ok_of_bind h
  have hgroup : (Ast.group capture changes body.1).Ordered :=
    .group (hexpr [] [] _ body (by simp) (by simp) hbody)
  unfold closed at h
  split at h
  case h_1 => exact hexpr branches _ _ x hbranches (List.forall_mem_cons.mpr ⟨hgroup, hparts⟩) h
  case h_2 => cases h

theorem KeepsOrder.opened {expr : Reader} (hexpr : KeepsOrder expr) (hbranches : ∀ a ∈ branches, a.Ordered)
    (hparts : ∀ a ∈ parts, a.Ordered) {st : Cursor} {start : GroupStart × List Char} {x : Ast × Cursor}
    (h : opened expr branches parts st start = .ok x) : x.1.Ordered := by
  unfold Regex.opened at h
  split at h
  case h_1 changes _ => exact hexpr branches _ _ x hbranches (List.forall_mem_cons.mpr ⟨.flags changes, hparts⟩) h
  case h_2 => exact hexpr.grouped hbranches hparts h
  case h_3 => exact hexpr.grouped hbranches hparts h
  case h_4 =>
    split at h
    · cases h
    · exact hexpr.grouped hbranches hparts h

theorem keepsOrder_expression (bound : Nat) : KeepsOrder (expression bound) := by
  induction bound with
  | zero => exact fun _ _ _ _ _ _ h => by cases h
  | succ bound ih =>
    intro branches parts st x hbranches hparts h
    have hall : ∀ a ∈ concatOf parts :: branches, a.Ordered :=
      List.forall_mem_cons.mpr ⟨ordered_concatOf hparts, hbranches⟩
    cases hskip : skip st.verbose st.rest with
    | nil =>
      rw [expression_nil hskip] at h
      cases h
      exact ordered_alternationOf hall
    | cons c cs =>
      by_cases hclose : c = ')'
      · subst hclose
        rw [expression_close hskip] at h
        cases h
        exact ordered_alternationOf hall
      by_cases hbar : c = '|'
      · subst hbar
        rw [expression_bar hskip] at h
        exact ih _ _ _ x hall (by simp) h
      by_cases hopen : c = '('
      · subst hopen
        rw [expression_open hskip] at h
        obtain ⟨start, -, h⟩ := ok_of_bind h
        exact ih.opened hbranches hparts h
      · rw [expression_cons hskip hclose hbar hopen] at h
        obtain ⟨y, hy, h⟩ := ok_of_bind h
        exact ih branches y.1 _ x hbranches (ordered_partsAfter hparts hy) h

theorem ordered_of_parse {pattern : List Char} {ast : Ast} (h : Ast.parse pattern = .ok ast) : ast.Ordered := by
  obtain ⟨x, hx, h⟩ := ok_of_bind h
  have hordered := keepsOrder_expression _ [] [] _ x (by simp) (by simp) hx
  dsimp only at h
  split at h
  · split at h
    · cases h
      exact hordered
    · cases h
  · cases h

end Parsed

/-! ## Expressions of ordered trees -/

theorem ordered_seqExpr {parts : List Ast}
    (h : ∀ a ∈ parts, ∀ flags (x : Expr × Flags), a.toExpr flags = .ok x → x.1.Ordered) {flags : Flags}
    {x : Expr × Flags} (hx : Ast.seqExpr flags parts = .ok x) : x.1.Ordered := by
  induction parts generalizing flags x with
  | nil =>
    cases hx
    trivial
  | cons a parts ih =>
    obtain ⟨ha, hparts⟩ := List.forall_mem_cons.mp h
    cases parts with
    | nil => exact ha flags x hx
    | cons b parts =>
      obtain ⟨y, hy, hx⟩ := ok_of_bind hx
      obtain ⟨z, hz, hx⟩ := ok_of_bind hx
      cases hx
      exact ⟨ha _ y hy, ih hparts hz⟩

theorem ordered_altExpr {branches : List Ast}
    (h : ∀ a ∈ branches, ∀ flags (x : Expr × Flags), a.toExpr flags = .ok x → x.1.Ordered) {flags : Flags}
    {x : Expr × Flags} (hx : Ast.altExpr flags branches = .ok x) : x.1.Ordered := by
  induction branches generalizing flags x with
  | nil =>
    cases hx
    trivial
  | cons a branches ih =>
    obtain ⟨ha, hbranches⟩ := List.forall_mem_cons.mp h
    cases branches with
    | nil => exact ha flags x hx
    | cons b branches =>
      obtain ⟨y, hy, hx⟩ := ok_of_bind hx
      obtain ⟨z, hz, hx⟩ := ok_of_bind hx
      cases hx
      exact ⟨ha _ y hy, ih hbranches hz⟩

theorem Ast.Ordered.toExpr {a : Ast} (h : a.Ordered) {flags : Flags} {x : Expr × Flags} (hx : a.toExpr flags = .ok x) :
    x.1.Ordered := by
  induction h generalizing flags x with
  | empty | flags | assertion =>
    cases hx
    trivial
  | literal | dot =>
    unfold Ast.toExpr at hx
    split at hx
    · cases hx
      trivial
    · cases hx
  | klass c =>
    obtain ⟨s, -, hx⟩ := ok_of_bind hx
    cases hx
    trivial
  | repetition _ hmax ih =>
    obtain ⟨y, hy, hx⟩ := ok_of_bind hx
    cases hx
    exact ⟨hmax, ih hy⟩
  | group _ ih =>
    obtain ⟨y, hy, hx⟩ := ok_of_bind hx
    cases hx
    show y.1.Ordered
    exact ih hy
  | concat _ ih => exact ordered_seqExpr (fun a ha _ _ => ih a ha) hx
  | alternation _ ih => exact ordered_altExpr (fun a ha _ _ => ih a ha) hx

/-! ## Searching -/

/-- What is written compiles to an ordered expression. -/
theorem ordered_of_compile {pattern : String} {e : Expr} (h : compile pattern = .ok e) : e.Ordered := by
  obtain ⟨ast, hast, h⟩ := ok_of_bind h
  obtain ⟨x, hx, h⟩ := ok_of_bind h
  dsimp only at h
  split at h
  · cases h
    exact (ordered_of_parse hast).toExpr hx
  · cases h

theorem isMatch_iff_of_compile {pattern : String} {e : Expr} (h : compile pattern = .ok e) (text : String) :
    isMatch e text = true ↔ e.Found text.toList :=
  Expr.isFoundIn_iff (ordered_of_compile h)

end ScenarioStubs.Regex
