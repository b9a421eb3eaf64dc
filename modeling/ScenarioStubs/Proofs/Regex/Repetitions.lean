import ScenarioStubs.Proofs.Regex.Classes

/-!
# Reading repetitions and the starts of groups with something behind them

Counts, and what a group begins with, are read alike in front of a closing parenthesis (`foretells_bounds`,
`foretells_groupStart`). Only flags that end with a pattern take the parenthesis for their own.
-/

namespace ScenarioStubs.Regex

variable {verbose : Bool} {cs rest : List Char}

/-! ## Counts -/

theorem skipBlanks_append (cs : List Char) : skipBlanks (cs ++ closing) = skipBlanks cs ++ closing := by
  unfold skipBlanks
  induction cs with
  | nil => rfl
  | cons c cs ih =>
    rw [List.cons_append, List.dropWhile_cons, List.dropWhile_cons, ih]
    cases Text.isWhiteSpace c <;> rfl

theorem skipBlanks_suffix (cs : List Char) : skipBlanks cs <:+ cs := List.dropWhile_suffix _

theorem countDigits_eq (bound : Nat) (found cs : List Char) :
    countDigits verbose bound found cs = run verbose Char.isDigit bound found cs := by
  induction bound generalizing found cs with
  | zero => rfl
  | succ bound ih =>
    cases cs with
    | nil => rfl
    | cons c cs =>
      unfold countDigits run
      simp only [ih]

theorem skipBlanksAnd_eq (bound : Nat) (found cs : List Char) :
    skipBlanksAnd verbose bound cs = (run verbose Text.isWhiteSpace bound found cs).2 := by
  induction bound generalizing found cs with
  | zero => rfl
  | succ bound ih =>
    cases cs with
    | nil => rfl
    | cons c cs =>
      unfold skipBlanksAnd run
      simp only
      split
      · exact ih (c :: found) (skip verbose cs)
      · rfl

/-- A count from its digits. -/
def countFrom (verbose : Bool) (x : List Char × List Char) : Parse (Nat × List Char) :=
  match x.1, Text.decimalNumber? x.1 with
  | _ :: _, some n =>
    if n < UInt32.size then
      .ok (run verbose Text.isWhiteSpace x.2.length [] x.2) >>= fun y => .ok (n, y.2)
    else .error .repetitionCount
  | _, _ => .error .repetitionCount

theorem count_eq (cs : List Char) : count verbose cs =
    .ok (run verbose Char.isDigit (cs.length + 1) [] (skipBlanks cs)) >>= countFrom verbose := by
  have hrest (cs : List Char) : skipBlanksAnd verbose cs.length cs = _ := skipBlanksAnd_eq cs.length [] cs
  unfold count
  rw [countDigits_eq]
  simp only [hrest]
  rfl

theorem trims_countFrom (x : List Char × List Char) : Trims x.2 (countFrom verbose x) := by
  unfold countFrom
  split
  case h_1 =>
    split
    · exact .bind (.ok (run_suffix _ [] x.2)) fun y => .ok (List.suffix_refl y.2)
    · exact .error _
  case h_2 => exact .error _

theorem foretells_countFrom (x : List Char × List Char) :
    Foretells Never x.2 (countFrom verbose x) (countFrom verbose (more x closing)) := by
  unfold countFrom
  dsimp only [more]
  split
  case h_1 =>
    split
    · exact (foretells_whole_run rfl x.2).surely (.ok (run_suffix _ [] x.2))
        (fun y => .ok (List.suffix_refl y.2)) (fun y _ => .before (_, y.2))
    · exact .error _ _
  case h_2 => exact .error _ _

theorem trims_count (cs : List Char) : Trims cs (count verbose cs) := by
  rw [count_eq]
  exact .bind (.ok ((run_suffix _ [] _).trans (skipBlanks_suffix cs))) trims_countFrom

theorem foretells_count (cs : List Char) :
    Foretells Never cs (count verbose cs) (count verbose (cs ++ closing)) := by
  have hblanks : (skipBlanks cs).length ≤ cs.length + 1 := Nat.le_succ_of_le (skipBlanks_suffix cs).length_le
  rw [count_eq, count_eq, skipBlanks_append, fuel_closing]
  exact ((foretells_run rfl 2 [] hblanks).of_suffix (skipBlanks_suffix cs)).surely
    (.ok ((run_suffix _ [] _).trans (skipBlanks_suffix cs))) trims_countFrom
    (fun x _ => foretells_countFrom x)

/-- The greater bound of a repetition, and the brace after it. -/
def greatest (least : Nat) : Nat × List Char → Parse ((Nat × Option Nat) × List Char)
  | (m, '\x7d' :: cs) => if least ≤ m then .ok ((least, some m), cs) else .error .repetitionCount
  | _ => .error .repetitionCount

/-- The bounds of a repetition after the comma between them. -/
def afterComma (verbose : Bool) (least : Nat) : List Char → Parse ((Nat × Option Nat) × List Char)
  | '\x7d' :: cs => .ok ((least, none), cs)
  | cs => count verbose cs >>= greatest least

/-- The bounds of a repetition after the first count. -/
def afterCount (verbose : Bool) : Nat × List Char → Parse ((Nat × Option Nat) × List Char)
  | (n, '\x7d' :: cs) => .ok ((n, some n), cs)
  | (n, ',' :: cs) => .ok (skip verbose cs) >>= afterComma verbose n
  | _ => .error .repetitionCount

theorem bounds_eq (cs : List Char) : bounds verbose cs =
    .ok (skip verbose cs) >>= count verbose >>= afterCount verbose := by
  unfold bounds
  refine congrArg (count verbose (skip verbose cs) >>= ·) (funext fun x => ?_)
  split
  case h_1 => rfl
  case h_2 n cs =>
    show _ = afterComma verbose n (skip verbose cs)
    generalize skip verbose cs = cs
    split
    case h_1 => rfl
    case h_2 hcs =>
      rw [afterComma]
      · refine congrArg (count verbose cs >>= ·) (funext fun y => ?_)
        split
        case h_1 => rfl
        case h_2 hy =>
          rw [greatest]
          exact hy
      · exact hcs
  case h_3 hbrace hcomma =>
    rw [afterCount]
    · exact hbrace
    · exact hcomma

theorem trims_greatest (least : Nat) (x : Nat × List Char) : Trims x.2 (greatest least x) := by
  unfold greatest
  split
  case h_1 m cs =>
    split
    · exact .ok (List.suffix_cons '\x7d' cs)
    · exact .error _
  case h_2 => exact .error _

theorem foretells_greatest (least : Nat) (x : Nat × List Char) :
    Foretells Never x.2 (greatest least x) (greatest least (more x closing)) := by
  obtain ⟨m, cs⟩ := x
  cases cs with
  | nil => exact .error _ _
  | cons c cs =>
    show Foretells Never _ (greatest least (m, c :: cs)) (greatest least (m, c :: (cs ++ closing)))
    by_cases hc : c = '\x7d'
    · subst hc
      rw [greatest, greatest]
      split
      · exact .before (_, cs)
      · exact .error _ _
    · have hother (cs : List Char) : greatest least (m, c :: cs) = .error .repetitionCount := by
        rw [greatest]
        exact fun m' cs' heq => hc (List.cons.inj (Prod.mk.inj heq).2).1
      rw [hother, hother]
      exact .error _ _

theorem trims_afterComma (least : Nat) (cs : List Char) : Trims cs (afterComma verbose least cs) := by
  unfold afterComma
  split
  case h_1 cs => exact .ok (List.suffix_cons '\x7d' cs)
  case h_2 => exact .bind (trims_count cs) (trims_greatest least)

theorem foretells_afterComma (least : Nat) (cs : List Char) :
    Foretells Never cs (afterComma verbose least cs) (afterComma verbose least (cs ++ closing)) := by
  by_cases hbrace : ∃ rest, cs = '\x7d' :: rest
  · obtain ⟨rest, rfl⟩ := hbrace
    exact .before (_, rest)
  · have hcs : ∀ rest, cs = '\x7d' :: rest → False := fun rest heq => hbrace ⟨rest, heq⟩
    rw [afterComma, afterComma]
    · exact (foretells_count cs).surely (trims_count cs) (trims_greatest least)
        (fun x _ => foretells_greatest least x)
    · exact not_start_append ['\x7d'] (by decide) hcs
    · exact hcs

theorem trims_afterCount (x : Nat × List Char) : Trims x.2 (afterCount verbose x) := by
  unfold afterCount
  split
  case h_1 cs => exact .ok (List.suffix_cons '\x7d' cs)
  case h_2 n cs =>
    exact Trims.of_suffix (.bind (.ok (skip_suffix verbose cs)) (trims_afterComma n)) (List.suffix_cons ',' cs)
  case h_3 => exact .error _

theorem foretells_afterCount (x : Nat × List Char) :
    Foretells Never x.2 (afterCount verbose x) (afterCount verbose (more x closing)) := by
  obtain ⟨n, cs⟩ := x
  cases cs with
  | nil => exact .error _ _
  | cons c cs =>
    show Foretells Never _ (afterCount verbose (n, c :: cs)) (afterCount verbose (n, c :: (cs ++ closing)))
    by_cases hbrace : c = '\x7d'
    · subst hbrace
      exact .before (_, cs)
    by_cases hcomma : c = ','
    · subst hcomma
      refine Foretells.of_suffix ?_ (List.suffix_cons ',' cs)
      exact (foretells_skip Never cs).surely (.ok (skip_suffix verbose cs)) (trims_afterComma n)
        (fun cs _ => foretells_afterComma n cs)
    have hother (cs : List Char) : afterCount verbose (n, c :: cs) = .error .repetitionCount := by
      rw [afterCount]
      · exact fun n' cs' heq => hbrace (List.cons.inj (Prod.mk.inj heq).2).1
      · exact fun n' cs' heq => hcomma (List.cons.inj (Prod.mk.inj heq).2).1
    rw [hother, hother]
    exact .error _ _

theorem trims_bounds (cs : List Char) : Trims cs (bounds verbose cs) := by
  rw [bounds_eq]
  exact .bind (.bind (.ok (skip_suffix verbose cs)) trims_count) trims_afterCount

theorem foretells_bounds (cs : List Char) :
    Foretells Never cs (bounds verbose cs) (bounds verbose (cs ++ closing)) := by
  have hskip := skip_suffix verbose cs
  rw [bounds_eq, bounds_eq]
  refine Foretells.surely ?_ (.bind (.ok hskip) trims_count) trims_afterCount
    (fun x _ => foretells_afterCount x)
  exact (foretells_skip Never cs).surely (.ok hskip) trims_count (fun cs _ => foretells_count cs)

/-- There is no count before what comes behind a pattern. -/
theorem bounds_of_closing (h : skip verbose cs = closing) : bounds verbose cs = .error .repetitionCount := by
  rw [bounds_eq, h]
  rfl

theorem greed_append (cs : List Char) : greed (cs ++ closing) = more (greed cs) closing := by
  by_cases hsign : ∃ rest, cs = '?' :: rest
  · obtain ⟨rest, rfl⟩ := hsign
    rfl
  · have hcs : ∀ rest, cs = '?' :: rest → False := fun rest heq => hsign ⟨rest, heq⟩
    rw [greed, greed]
    · rfl
    · exact hcs
    · exact not_start_append ['?'] (by decide) hcs

theorem greed_suffix (cs : List Char) : (greed cs).2 <:+ cs := by
  unfold greed
  split
  case h_1 cs => exact List.suffix_cons '?' cs
  case h_2 => exact List.suffix_refl cs

/-! ## Starts of groups -/

theorem trims_groupName (cs : List Char) : Trims cs (groupName cs) := by
  unfold groupName
  dsimp only
  split
  case h_1 after _ hdrop =>
    split
    · have hafter : '>' :: after <:+ cs := by
        rw [← hdrop]
        exact List.dropWhile_suffix _
      exact .ok ((List.suffix_cons '>' after).trans hafter)
    · exact .error _
  case h_2 => exact .error _

theorem foretells_groupName (cs : List Char) : Foretells Never cs (groupName cs) (groupName (cs ++ closing)) := by
  unfold groupName
  obtain ⟨hnil, hnil'⟩ | ⟨c, rest, hc, hdrop, hdrop', htake⟩ := parted_append (p := (· != '>')) rfl cs
  · rw [hnil, hnil']
    cases cs.takeWhile (· != '>') <;> cases (cs ++ closing).takeWhile (· != '>') <;> exact .error _ _
  · obtain rfl : c = '>' := Classical.byContradiction fun hne => absurd hc (by simp [hne])
    rw [hdrop, hdrop', htake]
    cases cs.takeWhile (· != '>') with
    | nil => exact .error _ _
    | cons d name =>
      show Foretells Never cs (if isNameChar true d && name.all (isNameChar false) then _ else _)
        (if isNameChar true d && name.all (isNameChar false) then _ else _)
      split
      · exact .before (_, rest)
      · exact .error _ _

/-- The flags are followed by the sign that ends them. -/
theorem flagChanges_ends {changes : FlagChanges} {negating dangling : Bool} {x : FlagChanges × List Char}
    (h : flagChanges changes negating dangling cs = .ok x) : x.2 ≠ [] := by
  induction cs generalizing changes negating dangling with
  | nil => cases h
  | cons c cs ih =>
    unfold flagChanges at h
    split at h
    · split at h <;> cases h
      nofun
    split at h
    · split at h
      · cases h
      · exact ih h
    split at h
    · cases h
    · split at h
      · cases h
      · exact ih h

theorem trims_flagChanges (changes : FlagChanges) (negating dangling : Bool) (cs : List Char) :
    Trims cs (flagChanges changes negating dangling cs) := by
  induction cs generalizing changes negating dangling with
  | nil => exact .error _
  | cons c cs ih =>
    have hcs := List.suffix_cons c cs
    unfold flagChanges
    split
    · split
      · exact .error _
      · exact .ok (List.suffix_refl _)
    split
    · split
      · exact .error _
      · exact (ih _ _ _).of_suffix hcs
    split
    · exact .error _
    · split
      · exact .error _
      · exact (ih _ _ _).of_suffix hcs

/-- Flags that end with the pattern are ended by the parenthesis. -/
theorem foretells_flagChanges (changes : FlagChanges) (negating dangling : Bool) (cs : List Char) :
    Foretells Unclosed cs (flagChanges changes negating dangling cs)
      (flagChanges changes negating dangling (cs ++ closing)) := by
  induction cs generalizing changes negating dangling with
  | nil => exact .failed _ fun y hy => trims_flagChanges changes negating dangling closing y hy
  | cons c cs ih =>
    have hcs := List.suffix_cons c cs
    unfold flagChanges
    dsimp only [List.cons_append]
    split
    · split
      · exact .error _ _
      · exact .before (_, c :: cs)
    split
    · split
      · exact .error _ _
      · exact (ih _ _ _).of_suffix hcs
    split
    · exact .error _ _
    · split
      · exact .error _ _
      · exact (ih _ _ _).of_suffix hcs

/-- What flags are for, from the sign that ends them. -/
def afterFlags : FlagChanges × List Char → Parse (GroupStart × List Char)
  | ([], ')' :: _) => .error .repetitionMissing
  | (changes, ')' :: cs) => .ok (.flags changes, cs)
  | (changes, cs) => .ok (.plain changes, cs.drop 1)

theorem trims_afterFlags (x : FlagChanges × List Char) : Trims x.2.tail (afterFlags x) := by
  unfold afterFlags
  split
  case h_1 => exact .error _
  case h_2 cs _ => exact .ok (List.suffix_refl cs)
  case h_3 changes cs _ _ =>
    rw [List.drop_one]
    exact .ok (List.suffix_refl cs.tail)

theorem foretells_afterFlags (late : GroupStart × List Char → Prop) {x : FlagChanges × List Char} (hx : x.2 ≠ []) :
    Foretells late x.2 (afterFlags x) (afterFlags (more x closing)) := by
  obtain ⟨changes, cs⟩ := x
  cases cs with
  | nil => exact (hx rfl).elim
  | cons c cs =>
    show Foretells late _ (afterFlags (changes, c :: cs)) (afterFlags (changes, c :: (cs ++ closing)))
    by_cases hc : c = ')'
    · subst hc
      cases changes with
      | nil => exact .error _ _
      | cons change changes => exact .before (_, cs)
    · have hplain (cs : List Char) : afterFlags (changes, c :: cs) = .ok (.plain changes, cs) := by
        rw [afterFlags]
        · rfl
        · exact fun _ _ heq => hc (List.cons.inj heq).1
        · exact fun _ heq => hc (List.cons.inj heq).1
      rw [hplain, hplain]
      exact .before (_, cs)

/-- What comes after an opening parenthesis: a look around, the name of a group, flags or the body of a group. -/
inductive GroupToken
  | lookAround
  | named (rest : List Char)
  | flagged (rest : List Char)
  | plain (cs : List Char)

instance : Leaves GroupToken where
  left
    | .lookAround => []
    | .named rest | .flagged rest | .plain rest => rest
  more
    | .lookAround, _ => .lookAround
    | .named rest, cs => .named (rest ++ cs)
    | .flagged rest, cs => .flagged (rest ++ cs)
    | .plain rest, cs => .plain (rest ++ cs)

/-- The token that a group begins with. -/
def groupToken : List Char → GroupToken
  | '?' :: '=' :: _ | '?' :: '!' :: _ | '?' :: '<' :: '=' :: _ | '?' :: '<' :: '!' :: _ => .lookAround
  | '?' :: 'P' :: '<' :: cs | '?' :: '<' :: cs => .named cs
  | '?' :: cs => .flagged cs
  | cs => .plain cs

theorem groupToken_append (cs : List Char) : groupToken (cs ++ closing) = more (groupToken cs) closing := by
  fun_cases groupToken cs
  case case6 cs hequals hmark =>
    show groupToken ('?' :: '<' :: (cs ++ closing)) = .named (cs ++ closing)
    rw [groupToken]
    · exact not_start_append ['='] (by decide) hequals
    · exact not_start_append ['!'] (by decide) hmark
  case case7 cs hequals hmark hequals' hmark' hnamed hangle =>
    show groupToken ('?' :: (cs ++ closing)) = .flagged (cs ++ closing)
    rw [groupToken]
    · exact not_start_append ['='] (by decide) hequals
    · exact not_start_append ['!'] (by decide) hmark
    · exact not_start_append ['<', '='] (by decide) hequals'
    · exact not_start_append ['<', '!'] (by decide) hmark'
    · exact not_start_append ['P', '<'] (by decide) hnamed
    · exact not_start_append ['<'] (by decide) hangle
  case case8 _ _ _ _ _ _ hmark =>
    have hcs := not_start_append ['?'] (by decide) hmark
    rw [groupToken]
    · rfl
    all_goals exact fun rest => hcs _
  all_goals rfl

theorem groupToken_suffix (cs : List Char) : left (groupToken cs) <:+ cs := by
  fun_cases groupToken cs
  case case5 =>
    exact (List.suffix_cons _ _).trans ((List.suffix_cons _ _).trans (List.suffix_cons _ _))
  case case6 => exact (List.suffix_cons _ _).trans (List.suffix_cons _ _)
  case case7 => exact List.suffix_cons _ _
  case case8 => exact List.suffix_refl cs
  all_goals exact List.nil_suffix

/-- The start of a group from its first token. -/
def startFrom (cs : List Char) : Parse (GroupStart × List Char) :=
  match groupToken cs with
  | .lookAround => .error .lookAround
  | .named cs => (groupName cs).map fun (name, cs) => (.capture (some name), cs)
  | .flagged cs => flagChanges [] false false cs >>= afterFlags
  | .plain cs => .ok (.capture none, cs)

theorem groupStart_eq (cs : List Char) : groupStart verbose cs = .ok (skip verbose cs) >>= startFrom := by
  unfold groupStart
  show _ = startFrom (skip verbose cs)
  generalize skip verbose cs = cs
  unfold startFrom
  split
  case h_6 hequals hmark =>
    rw [groupToken]
    · exact hequals
    · exact hmark
  case h_7 cs hequals hmark hequals' hmark' hnamed hangle =>
    rw [groupToken]
    · refine congrArg (flagChanges [] false false cs >>= ·) (funext fun x => ?_)
      split
      case h_1 => rfl
      case h_2 changes cs hchanges =>
        rw [afterFlags]
        · rfl
        · exact hchanges
      case h_3 hnone hsome =>
        rw [afterFlags]
        · rfl
        · exact hnone
        · exact hsome
    · exact hequals
    · exact hmark
    · exact hequals'
    · exact hmark'
    · exact hnamed
    · exact hangle
  case h_8 _ _ _ _ _ _ hmark =>
    rw [groupToken]
    all_goals exact fun rest => hmark _
  all_goals rfl

theorem trims_startFrom (cs : List Char) : Trims cs (startFrom cs) := by
  unfold startFrom
  refine Trims.of_suffix ?_ (groupToken_suffix cs)
  cases groupToken cs with
  | lookAround => exact .error _
  | named rest => exact .map (fun _ => rfl) (trims_groupName rest)
  | flagged rest =>
    exact .bind (trims_flagChanges [] false false rest) fun x => (trims_afterFlags x).of_suffix (List.tail_suffix x.2)
  | plain rest => exact .ok (List.suffix_refl rest)

theorem Unclosed.tail (h : cs <:+ closing) : cs.tail <:+ ['$'] := by
  cases cs with
  | nil => exact List.nil_suffix
  | cons c cs =>
    obtain heq | hcs := List.suffix_cons_iff.mp h
    · exact (List.cons.inj heq).2 ▸ List.suffix_refl cs
    · exact (List.suffix_cons c cs).trans hcs

theorem foretells_startFrom (cs : List Char) : Foretells Late cs (startFrom cs) (startFrom (cs ++ closing)) := by
  unfold startFrom
  rw [groupToken_append]
  refine Foretells.of_suffix ?_ (groupToken_suffix cs)
  cases groupToken cs with
  | lookAround => exact .error .lookAround .lookAround
  | named rest => exact (foretells_groupName rest).map (fun _ => rfl) (fun _ => rfl) fun _ hlate => hlate.elim
  | flagged rest =>
    refine (foretells_flagChanges [] false false rest).followed (trims_flagChanges [] false false rest)
      (fun x => (trims_afterFlags x).of_suffix (List.tail_suffix x.2)) (fun _ _ => rfl) (fun x hx => ?_) ?_
    · exact foretells_afterFlags Late (flagChanges_ends hx)
    · exact fun x hlate y hy => (trims_afterFlags x y hy).trans (Unclosed.tail hlate)
  | plain rest => exact .before (GroupStart.capture none, rest)

theorem trims_groupStart (cs : List Char) : Trims cs (groupStart verbose cs) := by
  rw [groupStart_eq]
  exact .bind (.ok (skip_suffix verbose cs)) trims_startFrom

/-- Flags that end with the pattern are ended by the parenthesis, and nothing else of the start of a group. -/
theorem foretells_groupStart (cs : List Char) :
    Foretells Late cs (groupStart verbose cs) (groupStart verbose (cs ++ closing)) := by
  rw [groupStart_eq, groupStart_eq]
  exact (foretells_skip Never cs).surely (.ok (skip_suffix verbose cs)) trims_startFrom
    fun cs _ => foretells_startFrom cs

end ScenarioStubs.Regex
