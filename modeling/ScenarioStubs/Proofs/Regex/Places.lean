import ScenarioStubs.Regex.Matching

/-!
# Places of a text

A place of a text is known by how many characters precede it (`Place.Of.eq_of_index`), so a list of places that descends
is known by its members' numbers. Merging two such lists, and taking the members of one out of the other, are union
and difference of their members (`mem_merge`, `mem_without`), and the results descend again.
-/

namespace ScenarioStubs.Regex

namespace Place

/-- A place of a text: what precedes it and what follows it are the text. -/
def Of (text : List Char) (p : Place) : Prop :=
  ∃ u, text = u ++ p.rest ∧ p.before = u.getLast? ∧ p.index = u.length

/-- From one place to another lies a stretch. -/
structure Leads (p : Place) (w : List Char) (q : Place) : Prop where
  rest : p.rest = w ++ q.rest
  before : q.before = behind p.before w
  index : q.index = p.index + w.length

variable {text : List Char} {p q r : Place} {ps qs found : List Place}

/-- Places of a text with the same number of characters before them are the same. -/
theorem Of.eq_of_index (hp : p.Of text) (hq : q.Of text) (h : p.index = q.index) : p = q := by
  obtain ⟨u, hu, hbefore, hindex⟩ := hp
  obtain ⟨v, hv, hbefore', hindex'⟩ := hq
  obtain ⟨rfl, hrest⟩ : u = v ∧ p.rest = q.rest :=
    List.append_inj (hu.symm.trans hv) (hindex.symm.trans (h.trans hindex'))
  cases p
  cases q
  simp_all

theorem Of.index_add_length (hp : p.Of text) : p.index + p.rest.length = text.length := by
  obtain ⟨u, rfl, -, hindex⟩ := hp
  rw [hindex, List.length_append]

theorem behind_append (before : Option Char) (v w : List Char) :
    behind before (v ++ w) = behind (behind before v) w := by
  simp [behind, List.getLast?_append, Option.or_assoc]

theorem Leads.refl (p : Place) : p.Leads [] p := ⟨rfl, rfl, rfl⟩

theorem Leads.trans {v w : List Char} (h : p.Leads v q) (h' : q.Leads w r) : p.Leads (v ++ w) r where
  rest := by rw [h.rest, h'.rest, List.append_assoc]
  before := by rw [h'.before, h.before, behind_append]
  index := by rw [h'.index, h.index, List.length_append, Nat.add_assoc]

/-- The place after a stretch that follows a place. -/
theorem exists_leads {w v : List Char} (h : p.rest = w ++ v) : ∃ q, p.Leads w q ∧ q.rest = v :=
  ⟨⟨p.index + w.length, behind p.before w, v⟩, ⟨h, rfl, rfl⟩, rfl⟩

theorem Of.leads {w : List Char} (hp : p.Of text) (h : p.Leads w q) : q.Of text := by
  obtain ⟨u, hu, hbefore, hindex⟩ := hp
  refine ⟨u ++ w, ?_, ?_, ?_⟩
  · rw [hu, h.rest, List.append_assoc]
  · rw [h.before, hbefore]
    simp [behind, List.getLast?_append]
  · rw [h.index, hindex, List.length_append]

/-! ## Lists of places -/

/-- Places of a text, the last first, each once. -/
structure Descending (text : List Char) (ps : List Place) : Prop where
  of : ∀ p ∈ ps, p.Of text
  pairwise : ps.Pairwise fun p q => q.index < p.index

theorem Descending.nil : Descending text [] := ⟨by simp, .nil⟩

theorem Descending.filter (h : Descending text ps) (keep : Place → Bool) : Descending text (ps.filter keep) :=
  ⟨fun p hp => h.of p (List.mem_filter.mp hp).1, h.pairwise.filter keep⟩

/-- The last member of a list is the earliest. -/
theorem Descending.index_getLast_le (h : Descending text ps) (hlast : ps.getLast? = some q) (hp : p ∈ ps) :
    q.index ≤ p.index := by
  obtain ⟨init, rfl⟩ : ∃ init, ps = init ++ [q] := List.getLast?_eq_some_iff.mp hlast
  rcases List.mem_append.mp hp with hp | hp
  · exact Nat.le_of_lt ((List.pairwise_append.mp h.pairwise).2.2 p hp q (List.mem_singleton_self q))
  · exact Nat.le_of_eq (congrArg index (List.mem_singleton.mp hp).symm)

theorem Descending.tail (h : Descending text (p :: ps)) : Descending text ps where
  of q hq := h.of q (List.mem_cons_of_mem _ hq)
  pairwise := (List.pairwise_cons.mp h.pairwise).2

theorem Descending.index_lt (h : Descending text (p :: ps)) (hq : q ∈ ps) : q.index < p.index :=
  (List.pairwise_cons.mp h.pairwise).1 q hq

/-- Lists of places of one text with the same numbers are the same. -/
theorem eq_of_same (hps : Descending text ps) (hqs : Descending text qs) (h : same ps qs = true) : ps = qs := by
  have hindex : ps.map (·.index) = qs.map (·.index) := eq_of_beq h
  clear h
  induction ps generalizing qs with
  | nil => exact (List.map_eq_nil_iff.mp hindex.symm).symm
  | cons p ps ih =>
    cases qs with
    | nil => cases hindex
    | cons q qs =>
      obtain ⟨hhead, htail⟩ := List.cons.inj hindex
      have hpq : p = q := (hps.of p List.mem_cons_self).eq_of_index (hqs.of q List.mem_cons_self) hhead
      rw [hpq, ih hps.tail hqs.tail htail]

/-! ## Union -/

theorem mem_mergeOnto (hps : Descending text ps) (hqs : Descending text qs) :
    r ∈ mergeOnto found ps qs ↔ r ∈ found ∨ r ∈ ps ∨ r ∈ qs := by
  fun_induction mergeOnto found ps qs with
  | case1 => simp
  | case2 => simp
  | case3 found p ps q qs hlt ih =>
    rw [ih hps.tail hqs]
    simp only [List.mem_cons]
    grind
  | case4 found p ps q qs _ hlt ih =>
    rw [ih hps hqs.tail]
    simp only [List.mem_cons]
    grind
  | case5 found p ps q qs hlt hlt' ih =>
    have hpq : p = q := (hps.of p List.mem_cons_self).eq_of_index (hqs.of q List.mem_cons_self) (by omega)
    rw [ih hps.tail hqs.tail]
    simp only [List.mem_cons, hpq]
    grind

theorem mem_merge (hps : Descending text ps) (hqs : Descending text qs) : r ∈ merge ps qs ↔ r ∈ ps ∨ r ∈ qs := by
  unfold merge
  rw [mem_mergeOnto hps hqs]
  simp

/-- The order of places in a list: the later one first. -/
abbrev Later (p q : Place) : Prop := q.index < p.index

/-- A place may be put between places before which it is and places after which it is. -/
theorem pairwise_between (h : (found.reverse ++ qs).Pairwise Later) (hfound : ∀ s ∈ found, p.index < s.index)
    (hqs : ∀ r ∈ qs, r.index < p.index) : ((p :: found).reverse ++ qs).Pairwise Later := by
  rw [List.reverse_cons, List.append_assoc, List.singleton_append]
  obtain ⟨hleft, hright, hacross⟩ := List.pairwise_append.mp h
  refine List.pairwise_append.mpr ⟨hleft, List.pairwise_cons.mpr ⟨hqs, hright⟩, fun s hs r hr => ?_⟩
  rcases List.mem_cons.mp hr with rfl | hr
  · exact hfound s (List.mem_reverse.mp hs)
  · exact hacross s hs r hr

theorem pairwise_mergeOnto (hps : (found.reverse ++ ps).Pairwise Later) (hqs : (found.reverse ++ qs).Pairwise Later) :
    (mergeOnto found ps qs).Pairwise Later := by
  have hfound {p : Place} {ps found : List Place} (h : (found.reverse ++ p :: ps).Pairwise Later) :
      (∀ s ∈ found, p.index < s.index) ∧ ∀ r ∈ ps, r.index < p.index :=
    ⟨fun s hs => (List.pairwise_append.mp h).2.2 s (List.mem_reverse.mpr hs) p List.mem_cons_self,
      (List.pairwise_cons.mp (List.pairwise_append.mp h).2.1).1⟩
  -- Each step moves the later of the two heads, or both, behind what has been put together.
  fun_induction mergeOnto found ps qs with
  | case1 => rwa [List.reverseAux_eq]
  | case2 => rwa [List.reverseAux_eq]
  | case3 found p ps q qs hlt ih =>
    refine ih (by simpa using hps) (pairwise_between hqs (hfound hps).1 fun r hr => ?_)
    rcases List.mem_cons.mp hr with rfl | hr
    · exact hlt
    · exact Nat.lt_trans ((hfound hqs).2 r hr) hlt
  | case4 found p ps q qs _ hlt ih =>
    refine ih (pairwise_between hps (hfound hqs).1 fun r hr => ?_) (by simpa using hqs)
    rcases List.mem_cons.mp hr with rfl | hr
    · exact hlt
    · exact Nat.lt_trans ((hfound hps).2 r hr) hlt
  | case5 found p ps q qs hlt hlt' ih =>
    have hindex : p.index = q.index := by omega
    have hqs' : (found.reverse ++ qs).Pairwise Later :=
      hqs.sublist ((List.sublist_cons_self q qs).append_left found.reverse)
    exact ih (by simpa using hps) (pairwise_between hqs' (hfound hps).1 fun r hr => hindex ▸ (hfound hqs).2 r hr)

theorem Descending.merge (hps : Descending text ps) (hqs : Descending text qs) : Descending text (merge ps qs) where
  of r hr := ((mem_merge hps hqs).mp hr).elim (hps.of r) (hqs.of r)
  pairwise := pairwise_mergeOnto (by simpa using hps.pairwise) (by simpa using hqs.pairwise)

/-! ## Difference -/

theorem withoutOnto_eq (hps : Descending text ps) (hqs : Descending text qs) :
    withoutOnto found ps qs = found.reverse ++ ps.filter fun p => !qs.any fun q => q.index == p.index := by
  fun_induction withoutOnto found ps qs with
  | case1 => simp
  | case2 found p ps =>
    rw [List.reverseAux_eq]
    exact congrArg (found.reverse ++ ·) (List.filter_eq_self.mpr fun _ _ => rfl).symm
  | case3 found p ps q qs hlt ih =>
    have hkept : (q :: qs).any (fun q => q.index == p.index) = false := by
      rw [List.any_eq_false]
      intro r hr
      rcases List.mem_cons.mp hr with rfl | hr
      · simp; omega
      · have := hqs.index_lt hr
        simp; omega
    rw [ih hps.tail hqs, List.filter_cons, hkept]
    simp
  | case4 found p ps q qs _ hlt ih =>
    rw [ih hps hqs.tail]
    refine congrArg (found.reverse ++ ·) (List.filter_congr fun r hr => ?_)
    have hne : q.index ≠ r.index := by
      rcases List.mem_cons.mp hr with rfl | hr
      · omega
      · have := hps.index_lt hr
        omega
    simp [hne]
  | case5 found p ps q qs hlt hlt' ih =>
    have hdropped : (q :: qs).any (fun q => q.index == p.index) = true := by
      simp only [List.any_cons, Bool.or_eq_true, beq_iff_eq]
      exact .inl (by omega)
    rw [ih hps.tail hqs.tail, List.filter_cons, hdropped]
    refine congrArg (found.reverse ++ ·) (List.filter_congr fun r hr => ?_)
    have hne : q.index ≠ r.index := by
      have := hps.index_lt hr
      omega
    simp [hne]

theorem without_eq (hps : Descending text ps) (hqs : Descending text qs) :
    without ps qs = ps.filter fun p => !qs.any fun q => q.index == p.index := by
  unfold without
  rw [withoutOnto_eq hps hqs]
  rfl

theorem mem_without (hps : Descending text ps) (hqs : Descending text qs) :
    r ∈ without ps qs ↔ r ∈ ps ∧ r ∉ qs := by
  rw [without_eq hps hqs, List.mem_filter, Bool.not_eq_true', List.any_eq_false]
  refine and_congr_right fun hr => ⟨fun h hmem => h r hmem (beq_self_eq_true _), fun h q hq heq => ?_⟩
  have hindex : q.index = r.index := eq_of_beq heq
  exact h ((hqs.of q hq).eq_of_index (hps.of r hr) hindex ▸ hq)

theorem Descending.without (hps : Descending text ps) (hqs : Descending text qs) :
    Descending text (without ps qs) := by
  rw [without_eq hps hqs]
  exact hps.filter _

/-! ## Every place -/

theorem onwards_eq (found : List Place) (i : Nat) (before : Option Char) (rest : List Char) :
    onwards found i before rest = onwards [] i before rest ++ found := by
  induction rest generalizing found i before with
  | nil => rfl
  | cons c cs ih =>
    unfold onwards
    rw [ih, ih [_], List.append_assoc]
    rfl

/-- The places from one to the end of a text are those that some stretch leads to from it. -/
theorem mem_onwards {p q : Place} : q ∈ onwards [] p.index p.before p.rest ↔ ∃ w, p.Leads w q := by
  obtain ⟨i, before, rest⟩ := p
  induction rest generalizing i before with
  | nil =>
    constructor
    · intro h
      exact ⟨[], List.mem_singleton.mp h ▸ .refl _⟩
    · rintro ⟨w, hrest, hbefore, hindex⟩
      obtain ⟨rfl, hrest⟩ := List.append_eq_nil_iff.mp hrest.symm
      cases q
      simp_all [onwards, behind]
  | cons c cs ih =>
    unfold onwards
    rw [onwards_eq, List.mem_append, List.mem_singleton]
    have hnext : Leads ⟨i, before, c :: cs⟩ [c] ⟨i + 1, some c, cs⟩ := ⟨rfl, rfl, rfl⟩
    refine (or_congr_left (ih (i + 1) (some c))).trans ⟨?_, ?_⟩
    · rintro (⟨w, h⟩ | rfl)
      · exact ⟨c :: w, hnext.trans h⟩
      · exact ⟨[], .refl _⟩
    · rintro ⟨w, hrest, hbefore, hindex⟩
      cases w with
      | nil =>
        right
        cases q
        simp_all [behind]
      | cons d w =>
        obtain ⟨rfl, htail⟩ := List.cons.inj hrest
        refine .inl ⟨w, htail, ?_, ?_⟩
        · rw [hbefore]
          simp [behind, List.getLast?_cons]
        · rw [hindex, List.length_cons]
          show i + (w.length + 1) = i + 1 + w.length
          omega

theorem mem_everywhere {q : Place} : q ∈ everywhere text ↔ q.Of text := by
  have h : q ∈ everywhere text ↔ ∃ w, Leads ⟨0, none, text⟩ w q := mem_onwards (p := ⟨0, none, text⟩)
  rw [h]
  constructor
  · rintro ⟨w, hrest, hbefore, hindex⟩
    exact ⟨w, hrest, by simpa [behind] using hbefore, by simpa using hindex⟩
  · rintro ⟨u, hu, hbefore, hindex⟩
    exact ⟨u, hu, by simpa [behind] using hbefore, by simpa using hindex⟩

theorem pairwise_onwards (i : Nat) (before : Option Char) (rest : List Char) :
    (onwards [] i before rest).Pairwise Later := by
  induction rest generalizing i before with
  | nil => exact List.pairwise_singleton _ _
  | cons c cs ih =>
    unfold onwards
    rw [onwards_eq]
    refine List.pairwise_append.mpr ⟨ih (i + 1) (some c), List.pairwise_singleton _ _, fun q hq r hr => ?_⟩
    obtain ⟨w, h⟩ := (mem_onwards (p := ⟨i + 1, some c, cs⟩)).mp hq
    rw [List.mem_singleton.mp hr]
    have := h.index
    simp only at this
    show i < q.index
    omega

theorem descending_everywhere (text : List Char) : Descending text (everywhere text) where
  of _ h := mem_everywhere.mp h
  pairwise := pairwise_onwards 0 none text

end Place

end ScenarioStubs.Regex
