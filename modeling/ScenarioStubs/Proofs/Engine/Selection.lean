import ScenarioStubs.Engine.Selection

/-!
# The order of candidates

`SelectionPolicy.Prefers` says which of two registered mappings comes first: those that require a state, if the policy
looks at it, then those with the smaller priority, then by their places. The keys of candidates compare by this order
(`key_lt_iff`), also where places are counted from the end, and the candidate that is chosen is preferred to every other
(`prefers_of_best?`).
-/

namespace ScenarioStubs

/-- Whether of two places the first is preferred. -/
def InsertionOrder.Precedes : InsertionOrder → Nat → Nat → Prop
  | .newestFirst, i, j => j < i
  | .oldestFirst, i, j => i < j

/-- The mapping `m` at place `i` is preferred to the mapping `m'` at place `j`. -/
inductive SelectionPolicy.Prefers (p : SelectionPolicy) (i : Nat) (m : StubMapping) (j : Nat) (m' : StubMapping) : Prop
  /-- Only one of them requires a state, and the policy looks at it. -/
  | state (on : p.scenarioStateFirst = true) (h : m.isGated = true) (h' : m'.isGated = false)
  | priority (tie : p.scenarioStateFirst = true → m.isGated = m'.isGated) (h : m.priority < m'.priority)
  | place (tie : p.scenarioStateFirst = true → m.isGated = m'.isGated) (same : m.priority = m'.priority)
      (h : p.insertionOrder.Precedes i j)

/-! ## Keys -/

namespace SelectionKey

theorem lt_iff {a b : SelectionKey} : a.lt b = true ↔
    (a.ungated = false ∧ b.ungated = true) ∨
      (a.ungated = b.ungated ∧ (a.priority < b.priority ∨ (a.priority = b.priority ∧ a.order < b.order))) := by
  simp [lt]

/-- A key that is not below a second, which is not below a third, is not below the third. -/
theorem not_lt_trans {a b c : SelectionKey} (h : ¬a.lt b = true) (h' : ¬b.lt c = true) : ¬a.lt c = true := by
  simp only [lt_iff, UInt32.lt_iff_toNat_lt, ← UInt32.toNat_inj] at h h' ⊢
  grind

theorem lt_asymm {a b : SelectionKey} (h : a.lt b = true) : ¬b.lt a = true := by
  simp only [lt_iff, UInt32.lt_iff_toNat_lt, ← UInt32.toNat_inj] at h ⊢
  grind

theorem not_lt_self (a : SelectionKey) : ¬a.lt a = true := fun h => lt_asymm h h

/-- Of two keys that differ in the place one is below the other. -/
theorem lt_of_not_lt {a b : SelectionKey} (h : ¬b.lt a = true) (ho : a.order ≠ b.order) : a.lt b = true := by
  simp only [lt_iff, UInt32.lt_iff_toNat_lt, ← UInt32.toNat_inj] at h ⊢
  grind

end SelectionKey

namespace SelectionPolicy

variable {p : SelectionPolicy} {total : Nat} {c c' : Candidate}

/-! ## Keys and preference -/

/-- Places below `total` keep their order when they are counted from the end. -/
theorem key_order_lt_iff (hc : c.rank < total) (hc' : c'.rank < total) :
    (p.key total c).order < (p.key total c').order ↔ p.insertionOrder.Precedes c.rank c'.rank := by
  unfold key InsertionOrder.Precedes
  cases p.insertionOrder with
  | newestFirst =>
    show total - c.rank < total - c'.rank ↔ c'.rank < c.rank
    omega
  | oldestFirst => exact Iff.rfl

theorem key_order_ne (hc : c.rank < total) (hc' : c'.rank < total) (h : c.rank ≠ c'.rank) :
    (p.key total c).order ≠ (p.key total c').order := by
  unfold key
  cases p.insertionOrder with
  | newestFirst =>
    show total - c.rank ≠ total - c'.rank
    omega
  | oldestFirst => exact h

theorem key_ungated_iff : (p.key total c).ungated = false ↔ p.scenarioStateFirst = true ∧ c.mapping.isGated = true := by
  simp [key]

theorem key_ungated_eq_iff : (p.key total c).ungated = (p.key total c').ungated ↔
    (p.scenarioStateFirst = true → c.mapping.isGated = c'.mapping.isGated) := by
  cases h : p.scenarioStateFirst <;> simp [key, h]

/-- Keys compare as the policy prefers. -/
theorem key_lt_iff (hc : c.rank < total) (hc' : c'.rank < total) :
    (p.key total c).lt (p.key total c') = true ↔ p.Prefers c.rank c.mapping c'.rank c'.mapping := by
  rw [SelectionKey.lt_iff, key_order_lt_iff hc hc', key_ungated_eq_iff, key_ungated_iff]
  constructor
  · rintro (⟨⟨on, h⟩, h'⟩ | ⟨tie, h | ⟨same, h⟩⟩)
    · exact .state on h (by simpa [key, on] using h')
    · exact .priority tie h
    · exact .place tie same h
  · rintro (⟨on, h, h'⟩ | ⟨tie, h⟩ | ⟨tie, same, h⟩)
    · exact .inl ⟨⟨on, h⟩, by simp [key, h']⟩
    · exact .inr ⟨tie, .inl h⟩
    · exact .inr ⟨tie, .inr ⟨same, h⟩⟩

/-- Two registered mappings are not each preferred to the other. -/
theorem Prefers.asymm {i j : Nat} {m m' : StubMapping} (h : p.Prefers i m j m') : ¬p.Prefers j m' i m := by
  intro h'
  have hi : i < max i j + 1 := by omega
  have hj : j < max i j + 1 := by omega
  have hlt : (p.key (max i j + 1) ⟨i, m⟩).lt (p.key (max i j + 1) ⟨j, m'⟩) = true := (key_lt_iff hi hj).mpr h
  have hlt' : (p.key (max i j + 1) ⟨j, m'⟩).lt (p.key (max i j + 1) ⟨i, m⟩) = true := (key_lt_iff hj hi).mpr h'
  exact SelectionKey.lt_asymm hlt hlt'

/-! ## The chosen candidate -/

/-- The fold keeps a candidate whose key no key seen so far is below. -/
theorem foldl_least : ∀ (cs : List Candidate) (best : Candidate), ∃ w ∈ best :: cs,
    cs.foldl (fun best c => if (p.key total c).lt (p.key total best) then c else best) best = w ∧
      ∀ c ∈ best :: cs, ¬(p.key total c).lt (p.key total w) = true
  | [], best => ⟨best, List.mem_cons_self, rfl, by simpa using SelectionKey.not_lt_self _⟩
  | d :: cs, best => by
    rw [List.foldl_cons]
    by_cases hd : (p.key total d).lt (p.key total best) = true
    · rw [if_pos hd]
      obtain ⟨w, hw, hfold, hleast⟩ := foldl_least cs d
      refine ⟨w, List.mem_cons_of_mem _ hw, hfold, fun c hc => ?_⟩
      rcases List.mem_cons.mp hc with rfl | hc
      · exact SelectionKey.not_lt_trans (SelectionKey.lt_asymm hd) (hleast d List.mem_cons_self)
      · exact hleast c hc
    · rw [if_neg hd]
      obtain ⟨w, hw, hfold, hleast⟩ := foldl_least cs best
      refine ⟨w, ?_, hfold, fun c hc => ?_⟩
      · rcases List.mem_cons.mp hw with rfl | hw
        · exact List.mem_cons_self
        · exact List.mem_cons_of_mem _ (List.mem_cons_of_mem _ hw)
      · rcases List.mem_cons.mp hc with rfl | hc
        · exact hleast c List.mem_cons_self
        · rcases List.mem_cons.mp hc with rfl | hc
          · exact SelectionKey.not_lt_trans hd (hleast best List.mem_cons_self)
          · exact hleast c (List.mem_cons_of_mem _ hc)

theorem best?_eq_none_iff {cs : List Candidate} : p.best? total cs = none ↔ cs = [] := by
  cases cs <;> simp [best?]

/-- A chosen candidate is one of them, and no key is below its key. -/
theorem best?_least {cs : List Candidate} (h : p.best? total cs = some c) :
    c ∈ cs ∧ ∀ c' ∈ cs, ¬(p.key total c').lt (p.key total c) = true := by
  cases cs with
  | nil => cases h
  | cons d cs =>
    obtain ⟨w, hw, hfold, hleast⟩ := foldl_least cs d
    cases Option.some.inj (h.symm.trans (congrArg some hfold))
    exact ⟨hw, hleast⟩

theorem mem_of_best? {cs : List Candidate} (h : p.best? total cs = some c) : c ∈ cs := (best?_least h).1

/-- A chosen candidate is preferred to all at other places. -/
theorem prefers_of_best? {cs : List Candidate} (hr : ∀ c ∈ cs, c.rank < total) (h : p.best? total cs = some c)
    (hc' : c' ∈ cs) (hne : c.rank ≠ c'.rank) : p.Prefers c.rank c.mapping c'.rank c'.mapping := by
  obtain ⟨hc, hleast⟩ := best?_least h
  exact (key_lt_iff (hr c hc) (hr c' hc')).mp
    (SelectionKey.lt_of_not_lt (hleast c' hc') (key_order_ne (hr c hc) (hr c' hc') hne))

end SelectionPolicy

end ScenarioStubs
