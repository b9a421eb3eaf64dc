import ScenarioStubs.Proofs.Regex.Ordered

/-!
# Anchored patterns

A pattern is anchored by setting it as it stands in a group between a start and an end (`anchor`). The group holds what
the pattern writes, unless the pattern ends in a comment, which then hides the end of the group too
(`parse_anchor_of_ok`). A pattern that cannot be read, but for a parenthesis that closes nothing, cannot be read between
anchors either (`parse_anchor_of_error`). The anchored expression is found exactly in the texts that the expression
matches as a whole (`Expr.found_anchored_iff`). Together these tell what compiles between anchors
(`compile_anchor_of_ok`, `compile_anchor_of_error`).
-/

namespace ScenarioStubs.Regex

/-! ## Expressions -/

/-- An expression between the start and the end of a text. -/
def Expr.anchored (e : Expr) : Expr := .seq (.look .textStart) (.seq (.group none e) (.look .textEnd))

theorem Expr.found_anchored_iff {e : Expr} {text : List Char} :
    e.anchored.Found text ↔ e.Matches none text none := by
  constructor
  · rintro ⟨u, w, v, rfl, h⟩
    generalize hbefore : u.getLast? = before at h
    generalize hafter : v.head? = after at h
    cases h with
    | seq hstart h =>
      cases hstart with
      | look hstart =>
        cases h with
        | seq hgroup hend =>
          cases hend with
          | look hend =>
            obtain rfl : before = none := Option.isNone_iff_eq_none.mp hstart
            obtain rfl : after = none := Option.isNone_iff_eq_none.mp hend
            obtain rfl : u = [] := List.getLast?_eq_none_iff.mp hbefore
            obtain rfl : v = [] := List.head?_eq_none_iff.mp hafter
            cases hgroup with
            | group h =>
              simp only [List.nil_append, List.append_nil]
              exact h
  · intro h
    have hstart : (Expr.look .textStart).Matches none [] (ahead (text ++ []) none) := .look rfl
    have hgroup : (Expr.group none e).Matches (behind none []) text (ahead [] none) := .group h
    have hend : (Expr.look .textEnd).Matches (behind (behind none []) text) [] none := .look rfl
    exact ⟨[], [] ++ (text ++ []), [], by simp, .seq hstart (.seq hgroup hend)⟩

/-! ## Trees -/

/-- A tree between the start and the end of a line. -/
def Ast.anchored (ast : Ast) : Ast := .concat [.assertion .lineStart, .group none [] ast, .assertion .lineEnd]

theorem Ast.depth_anchored (ast : Ast) : ast.anchored.depth = ast.depth + 2 := by
  simp [Ast.anchored, Ast.depth, Ast.depthAll]

theorem Ast.toExpr_anchored (ast : Ast) :
    ast.anchored.toExpr {} = (ast.toExpr {}).map fun x => (x.1.anchored, {}) := by
  have hgroup : (Ast.group none [] ast).toExpr {} = (ast.toExpr {}).map fun x => (.group none x.1, {}) := by
    rw [Ast.toExpr]
    show ast.toExpr {} >>= _ = _
    cases ast.toExpr {} <;> rfl
  have hall : ast.anchored.toExpr {} = Ast.seqExpr {} [.group none [] ast, .assertion .lineEnd] >>= fun x =>
      .ok (.seq (.look .textStart) x.1, x.2) := rfl
  have hrest : Ast.seqExpr {} [.group none [] ast, .assertion .lineEnd] =
      (Ast.group none [] ast).toExpr {} >>= fun x => .ok (.seq x.1 (.look (Assertion.lineEnd.toLook x.2)), x.2) := rfl
  rw [hall, hrest, hgroup]
  cases ast.toExpr {} <;> rfl

/-! ## Patterns -/

/-- A pattern set between anchors as it stands. -/
def anchor (pattern : List Char) : List Char := '^' :: '(' :: '?' :: ':' :: (pattern ++ closing)

theorem toList_anchor (pattern : String) : ("^(?:" ++ pattern ++ ")$").toList = anchor pattern.toList := by
  simp [anchor, closing]

/-- What is put behind a pattern is taken for a part of a comment at the end of it. -/
def HidesRest (pattern : List Char) : Prop := ∃ ast, Ast.parse (pattern ++ closing) = .ok ast

/-- Reading a pattern from its start. -/
abbrev start (pattern : List Char) : Cursor := ⟨pattern, false, 0, []⟩

/-- The tree that was read, if it is that of the whole pattern and not too deep. -/
def whole (x : Ast × Cursor) : Parse Ast :=
  if x.2.rest.isEmpty then (if x.1.depth ≤ maxDepth then .ok x.1 else .error .nestingTooDeep)
  else .error .groupUnopened

theorem parse_eq (pattern : List Char) :
    Ast.parse pattern = expression (pattern.length + 1) [] [] (start pattern) >>= whole := rfl

theorem whole_of_left {x : Ast × Cursor} (h : left x = []) :
    whole x = if x.1.depth ≤ maxDepth then .ok x.1 else .error .nestingTooDeep := by
  have hrest : x.2.rest = [] := h
  unfold whole
  rw [hrest]
  rfl

theorem whole_of_left_ne {x : Ast × Cursor} (h : left x ≠ []) : whole x = .error .groupUnopened := by
  have hrest : ¬ x.2.rest.isEmpty := fun hempty => h (List.isEmpty_iff.mp hempty)
  exact if_neg hrest

variable {pattern : List Char} {ast : Ast}

/-- Reading an anchored pattern comes to the pattern as the body of a group. -/
theorem expression_anchor (pattern : List Char) :
    expression (pattern.length + 7) [] [] (start (anchor pattern)) =
      expression (pattern.length + 5) [] [] (start (pattern ++ closing)) >>=
        closed (expression (pattern.length + 5)) [] [.assertion .lineStart] false none [] := by
  have hstart : expression (pattern.length + 7) [] [] (start (anchor pattern)) =
      partsAfter false [] '^' ('(' :: '?' :: ':' :: (pattern ++ closing)) >>= fun x =>
        expression (pattern.length + 6) [] x.1 (start x.2) :=
    expression_cons rfl (by decide) (by decide) (by decide)
  have hopen : expression (pattern.length + 6) [] [.assertion .lineStart]
      (start ('(' :: '?' :: ':' :: (pattern ++ closing))) =
        groupStart false ('?' :: ':' :: (pattern ++ closing)) >>=
          opened (expression (pattern.length + 5)) [] [.assertion .lineStart]
            (start ('(' :: '?' :: ':' :: (pattern ++ closing))) :=
    expression_open rfl
  rw [hstart]
  exact hopen

/-- After the group there is the end of the text. -/
theorem expression_end (bound : Nat) (parts : List Ast) (captures : Nat) (names : List String) :
    expression (bound + 2) [] parts ⟨['$'], false, captures, names⟩ =
      .ok (concatOf (.assertion .lineEnd :: parts), ⟨[], false, captures, names⟩) := by
  have hend : expression (bound + 2) [] parts ⟨['$'], false, captures, names⟩ =
      partsAfter false parts '$' [] >>= fun x => expression (bound + 1) [] x.1 ⟨x.2, false, captures, names⟩ :=
    expression_cons rfl (by decide) (by decide) (by decide)
  rw [hend]
  show expression (bound + 1) [] (.assertion .lineEnd :: parts) ⟨[], false, captures, names⟩ = _
  exact expression_nil rfl

theorem parse_anchor_eq (pattern : List Char) : Ast.parse (anchor pattern) =
    expression (pattern.length + 5) [] [] (start (pattern ++ closing)) >>=
      closed (expression (pattern.length + 5)) [] [.assertion .lineStart] false none [] >>= whole := by
  have hlength : (anchor pattern).length + 1 = pattern.length + 7 := by
    simp [anchor, closing]
  rw [parse_eq, hlength, expression_anchor]

theorem parse_closing_eq (pattern : List Char) : Ast.parse (pattern ++ closing) =
    expression (pattern.length + 5) [] [] (start (pattern ++ closing)) >>= whole := by
  have hlength : (pattern ++ closing).length + 1 + 2 = pattern.length + 5 := by
    simp [closing]
  rw [parse_eq, ← expression_fuel 2 [] [] _ (Nat.lt_succ_self (pattern ++ closing).length), hlength]

theorem left_more_closing {x : Ast × Cursor} (h : left x = []) : left (more x closing) = closing :=
  congrArg (· ++ closing) h

theorem foretells_start (pattern : List Char) :
    Foretells Late pattern (expression (pattern.length + 1) [] [] (start pattern))
      (expression (pattern.length + 5) [] [] (start (pattern ++ closing))) :=
  foretells_expression 4 [] [] (start pattern) (Nat.lt_succ_self pattern.length)

/-- A body that is not followed by a parenthesis leaves the group open. -/
theorem parse_anchor_of_open (h : ∀ x, expression (pattern.length + 5) [] [] (start (pattern ++ closing)) = .ok x →
    ∀ rest, left x ≠ ')' :: rest) : ∃ cause, Ast.parse (anchor pattern) = .error cause := by
  rw [parse_anchor_eq]
  cases hbody : expression (pattern.length + 5) [] [] (start (pattern ++ closing)) with
  | error cause => exact ⟨cause, rfl⟩
  | ok x =>
    show ∃ cause, closed _ _ _ _ _ _ x >>= whole = _
    rw [closed_of_left (h x hbody)]
    exact ⟨.groupUnclosed, rfl⟩

/-- A body that is read up to the parenthesis is a group between the anchors. -/
theorem parse_anchor_of_closing {x : Ast × Cursor}
    (h : expression (pattern.length + 5) [] [] (start (pattern ++ closing)) = .ok x) (hx : left x = closing) :
    Ast.parse (anchor pattern) = if x.1.depth + 2 ≤ maxDepth then .ok x.1.anchored else .error .nestingTooDeep := by
  have hend := expression_end (pattern.length + 3) [.group none [] x.1, .assertion .lineStart] x.2.captures x.2.names
  rw [parse_anchor_eq, h]
  show closed _ _ _ _ _ _ x >>= whole = _
  rw [closed_paren hx, hend, ← Ast.depth_anchored]
  rfl

/-- The group holds the whole pattern, unless the pattern ends in a comment. -/
theorem parse_anchor_of_ok (h : Ast.parse pattern = .ok ast) :
    (HidesRest pattern ∧ EndsInComment pattern ∧ ∃ cause, Ast.parse (anchor pattern) = .error cause) ∨
      (¬HidesRest pattern ∧ Ast.parse (anchor pattern) =
        if ast.depth + 2 ≤ maxDepth then .ok ast.anchored else .error .nestingTooDeep) := by
  rw [parse_eq] at h
  obtain ⟨x, hx, h⟩ := ok_of_bind h
  have hleft : left x = [] := Classical.byContradiction fun hne => by
    cases (whole_of_left_ne hne).symm.trans h
  rw [whole_of_left hleft] at h
  split at h
  case isFalse => cases h
  case isTrue hdepth =>
    cases h
    have hforetells := foretells_start pattern
    rw [hx] at hforetells
    generalize hbody : expression (pattern.length + 5) [] [] (start (pattern ++ closing)) = body at hforetells
    cases hforetells with
    | before =>
      have hmore := left_more_closing hleft
      have hparse := parse_anchor_of_closing hbody hmore
      refine .inr ⟨?_, hparse⟩
      rintro ⟨ast, hparse⟩
      rw [parse_closing_eq, hbody] at hparse
      have hne : left (more x closing) ≠ [] := by
        rw [hmore]
        nofun
      cases (whole_of_left_ne hne).symm.trans hparse
    | hidden _ hcomment =>
      refine .inl ⟨⟨x.1, ?_⟩, hcomment, parse_anchor_of_open fun y hy rest hrest => ?_⟩
      · rw [parse_closing_eq, hbody]
        show whole x = _
        rw [whole_of_left hleft, if_pos hdepth]
      · cases hbody.symm.trans hy
        cases hleft.symm.trans hrest

/-- Anchors mend nothing but a parenthesis that closes nothing. -/
theorem parse_anchor_of_error {cause : SyntaxError} (h : Ast.parse pattern = .error cause)
    (hcause : cause ≠ .groupUnopened) : ∃ cause', Ast.parse (anchor pattern) = .error cause' := by
  have hforetells := foretells_start pattern
  rw [parse_eq] at h
  generalize hread : expression (pattern.length + 1) [] [] (start pattern) = read at h hforetells
  generalize hbody : expression (pattern.length + 5) [] [] (start (pattern ++ closing)) = body at hforetells
  cases hforetells with
  | before x =>
    -- The expression was read to the end of the pattern, so it was refused for its depth.
    have hleft : left x = [] := Classical.byContradiction fun hne =>
      hcause (Except.error.inj (h.symm.trans (whole_of_left_ne hne)))
    have hdeep : ¬ (more x closing).1.depth + 2 ≤ maxDepth := fun hle => by
      cases (h.symm.trans (whole_of_left hleft)).trans (if_pos (Nat.le_trans (Nat.le_add_right _ 2) hle))
    exact ⟨.nestingTooDeep, (parse_anchor_of_closing hbody (left_more_closing hleft)).trans (if_neg hdeep)⟩
  | @hidden x hleft hcomment =>
    refine parse_anchor_of_open fun y hy rest hrest => ?_
    cases hbody.symm.trans hy
    cases hleft.symm.trans hrest
  | failed _ hlate =>
    -- What could be read with the parenthesis has used it up, and none is left to close the group.
    refine parse_anchor_of_open fun y hy rest hrest => ?_
    have hparen : ')' ∈ left y := hrest ▸ List.mem_cons_self
    exact absurd ((hlate y (hbody.symm.trans hy)).subset hparen) (by decide)

/-! ## Compiled patterns -/

/-- A pattern can be set between anchors: it does not end in a comment, it is not nested too deep for one more group and
sequence, and the automata of the anchored expression are not too large. -/
def Anchorable (pattern : String) (e : Expr) : Prop :=
  ¬HidesRest pattern.toList ∧ (∀ ast, Ast.parse pattern.toList = .ok ast → ast.depth + 2 ≤ maxDepth) ∧
    e.anchored.shape.fits = true

theorem compile_anchor_eq (pattern : String) : compile ("^(?:" ++ pattern ++ ")$") =
    Ast.parse (anchor pattern.toList) >>= fun ast => ast.toExpr {} >>= fun x =>
      if x.1.shape.fits then .ok x.1 else .error .tooLarge := by
  unfold compile
  rw [toList_anchor]
  rfl

/-- A pattern that can be anchored compiles between anchors to its anchored expression, and no other does. -/
theorem compile_anchor_of_ok {pattern : String} {e : Expr} (h : compile pattern = .ok e) :
    (Anchorable pattern e → compile ("^(?:" ++ pattern ++ ")$") = .ok e.anchored) ∧
      (¬Anchorable pattern e → ∃ cause, compile ("^(?:" ++ pattern ++ ")$") = .error cause) := by
  obtain ⟨ast, hast, h⟩ := ok_of_bind h
  obtain ⟨x, hx, h⟩ := ok_of_bind h
  have he : x.1 = e := by
    dsimp only at h
    split at h
    · exact Except.ok.inj h
    · cases h
  rw [compile_anchor_eq]
  obtain ⟨hhides, -, cause, hparse⟩ | ⟨hhides, hparse⟩ := parse_anchor_of_ok hast
  · rw [hparse]
    exact ⟨fun hanchorable => absurd hhides hanchorable.1, fun _ => ⟨cause, rfl⟩⟩
  · by_cases hdepth : ast.depth + 2 ≤ maxDepth
    case neg =>
      rw [hparse, if_neg hdepth]
      exact ⟨fun hanchorable => absurd (hanchorable.2.1 ast hast) hdepth, fun _ => ⟨_, rfl⟩⟩
    have hanchored : ast.anchored.toExpr {} = .ok (e.anchored, {}) := by
      rw [Ast.toExpr_anchored, hx, ← he]
      rfl
    have hread : (Ast.parse (anchor pattern.toList) >>= fun ast => ast.toExpr {} >>= fun x =>
        if x.1.shape.fits then .ok x.1 else .error .tooLarge) =
          if e.anchored.shape.fits then .ok e.anchored else .error .tooLarge := by
      rw [hparse, if_pos hdepth]
      show ast.anchored.toExpr {} >>= _ = _
      rw [hanchored]
      rfl
    rw [hread]
    by_cases hfits : e.anchored.shape.fits = true
    · refine ⟨fun _ => if_pos hfits, fun hnot => (hnot ⟨hhides, fun ast' hast' => ?_, hfits⟩).elim⟩
      cases hast.symm.trans hast'
      exact hdepth
    · exact ⟨fun hanchorable => absurd hanchorable.2.2 hfits, fun _ => ⟨.tooLarge, if_neg hfits⟩⟩

/-- A text that is no pattern, but for a parenthesis that closes nothing or for its size, is none between anchors. -/
theorem compile_anchor_of_error {pattern : String} {cause : SyntaxError} (h : compile pattern = .error cause)
    (hopen : cause ≠ .groupUnopened) (hlarge : cause ≠ .tooLarge) :
    ∃ cause', compile ("^(?:" ++ pattern ++ ")$") = .error cause' := by
  rw [compile_anchor_eq]
  unfold compile at h
  cases hast : Ast.parse pattern.toList with
  | error cause' =>
    rw [hast] at h
    cases h
    obtain ⟨cause, hparse⟩ := parse_anchor_of_error hast hopen
    exact ⟨cause, by rw [hparse]; rfl⟩
  | ok ast =>
    rw [hast] at h
    have h : ast.toExpr {} >>= (fun x => if x.1.shape.fits then .ok x.1 else .error .tooLarge) = .error cause := h
    cases hx : ast.toExpr {} with
    | error cause' =>
      obtain ⟨-, -, cause, hparse⟩ | ⟨-, hparse⟩ := parse_anchor_of_ok hast
      · exact ⟨cause, by rw [hparse]; rfl⟩
      · by_cases hdepth : ast.depth + 2 ≤ maxDepth
        · rw [hparse, if_pos hdepth]
          show ∃ cause', ast.anchored.toExpr {} >>= _ = _
          rw [Ast.toExpr_anchored, hx]
          exact ⟨cause', rfl⟩
        · rw [hparse, if_neg hdepth]
          exact ⟨.nestingTooDeep, rfl⟩
    | ok x =>
      rw [hx] at h
      have h : (if x.1.shape.fits then .ok x.1 else .error .tooLarge) = Except.error cause := h
      split at h
      · cases h
      · exact absurd (Except.error.inj h).symm hlarge

end ScenarioStubs.Regex
