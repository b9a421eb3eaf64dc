/-!
# What holds since it began

- A condition on the points of a run that begins at some steps and ends at others holds exactly if it has begun at an
  earlier step and not ended since (`holds_iff_begun_since`); the points may be those of a list
  (`holds_iff_begun_since_entry`).
- The same for the entries of a list: where the last of them that begins something stands, if none ends it after that
  (`SinceAt`), and how that place moves when the list grows (`sinceAt_concat`).
- The value that was given last by the entries of a list (`lastGiven`): a new entry gives its own, or leaves the one
  before (`lastGiven_concat`).
-/

namespace ScenarioStubs

variable {p begins ends : Nat → Prop}

/-- A condition holds exactly if it began at an earlier step and did not end at any step since. -/
theorem holds_iff_begun_since (hzero : ¬p 0) (hsucc : ∀ j, p (j + 1) ↔ begins j ∨ p j ∧ ¬ends j) (j : Nat) :
    p j ↔ ∃ i < j, begins i ∧ ∀ k, i < k → k < j → ¬ends k := by
  induction j with
  | zero => exact ⟨fun h => absurd h hzero, fun ⟨_, hi, _⟩ => absurd hi (Nat.not_lt_zero _)⟩
  | succ j ih =>
    rw [hsucc, ih]
    constructor
    · rintro (hbegins | ⟨⟨i, hi, hbegins, hsince⟩, hends⟩)
      · exact ⟨j, Nat.lt_succ_self j, hbegins, fun k hjk hkj => by omega⟩
      · refine ⟨i, Nat.lt_succ_of_lt hi, hbegins, fun k hik hkj => ?_⟩
        obtain hkj | rfl := Nat.lt_succ_iff_lt_or_eq.mp hkj
        · exact hsince k hik hkj
        · exact hends
    · rintro ⟨i, hi, hbegins, hsince⟩
      obtain hij | rfl := Nat.lt_succ_iff_lt_or_eq.mp hi
      · exact .inr ⟨⟨i, hij, hbegins, fun k hik hkj => hsince k hik (Nat.lt_succ_of_lt hkj)⟩,
          hsince j hij (Nat.lt_succ_self j)⟩
      · exact .inl hbegins

/-! ## Lists -/

/-- A condition on what precedes a place of a list holds exactly if it began with an earlier entry and did not end with
any entry since. -/
theorem holds_iff_begun_since_entry {α : Type} {l : List α} (p : List α → Prop) {begins ends : Nat → α → Prop}
    (hnil : ¬p []) (hentry : ∀ j a, l[j]? = some a →
      (p (l.take (j + 1)) ↔ begins j a ∨ p (l.take j) ∧ ¬ends j a)) (j : Nat) :
    p (l.take j) ↔ ∃ i < j, (∃ a, l[i]? = some a ∧ begins i a) ∧ ∀ k, i < k → k < j →
      ¬∃ a, l[k]? = some a ∧ ends k a := by
  refine holds_iff_begun_since (p := fun j => p (l.take j)) hnil ?_ j
  intro j
  cases ha : l[j]? with
  | none =>
    -- Behind the last entry nothing begins or ends.
    have hstays : l.take (j + 1) = l.take j := by
      rw [List.take_add_one, ha, Option.toList_none, List.append_nil]
    simp [hstays]
  | some a =>
    rw [hentry j a ha]
    simp

/-- The entry at place `i` satisfies `p`, and every later entry satisfies `q`, each of them seen with the entries before
it. -/
def SinceAt {α : Type} (p q : List α → α → Prop) (l : List α) (i : Nat) : Prop :=
  (∃ a, l[i]? = some a ∧ p (l.take i) a) ∧ ∀ j b, i < j → l[j]? = some b → q (l.take j) b

section SinceAt

variable {α : Type} {p q : List α → α → Prop} {l : List α} {a : α} {i : Nat}

theorem SinceAt.lt_length (h : SinceAt p q l i) : i < l.length := by
  obtain ⟨⟨a, ha, -⟩, -⟩ := h
  exact (List.getElem?_eq_some_iff.mp ha).1

theorem not_sinceAt_nil : ¬SinceAt p q [] i := fun h => Nat.not_lt_zero i h.lt_length

theorem not_exists_sinceAt_nil : ¬∃ i, SinceAt p q [] i := not_exists.mpr fun _ => not_sinceAt_nil

/-- An entry of a list with one more is an old one, or the new one; the same entries are before it as were. -/
theorem entry_of_concat {j : Nat} {b : α} (h : (l ++ [a])[j]? = some b) :
    j < l.length ∧ l[j]? = some b ∧ (l ++ [a]).take j = l.take j ∨
      j = l.length ∧ a = b ∧ (l ++ [a]).take j = l := by
  have hlt := (List.getElem?_eq_some_iff.mp h).1
  rw [List.length_append, List.length_singleton] at hlt
  obtain hj | rfl := Nat.lt_succ_iff_lt_or_eq.mp hlt
  · rw [List.getElem?_append_left hj] at h
    exact .inl ⟨hj, h, List.take_append_of_le_length (Nat.le_of_lt hj)⟩
  · rw [List.getElem?_concat_length] at h
    exact .inr ⟨rfl, Option.some.inj h, List.take_left⟩

/-- With one more entry, the place is that of the new entry, or it is the old one and the new entry leaves it so. -/
theorem sinceAt_concat : SinceAt p q (l ++ [a]) i ↔ i = l.length ∧ p l a ∨ SinceAt p q l i ∧ q l a := by
  have hlast : (l ++ [a])[l.length]? = some a := List.getElem?_concat_length
  have hfront : ∀ {j b}, l[j]? = some b → (l ++ [a])[j]? = some b ∧ (l ++ [a]).take j = l.take j := fun {j b} hb => by
    have hj : j < l.length := (List.getElem?_eq_some_iff.mp hb).1
    exact ⟨(List.getElem?_append_left hj).trans hb, List.take_append_of_le_length (Nat.le_of_lt hj)⟩
  constructor
  · rintro ⟨⟨b, hb, hp⟩, hq⟩
    obtain ⟨hi, hb, htake⟩ | ⟨rfl, rfl, htake⟩ := entry_of_concat hb
    · rw [htake] at hp
      refine .inr ⟨⟨⟨b, hb, hp⟩, fun j c hij hc => ?_⟩, ?_⟩
      · have hc' := hq j c hij (hfront hc).1
        rwa [(hfront hc).2] at hc'
      · have ha := hq l.length a hi hlast
        rwa [List.take_left] at ha
    · rw [htake] at hp
      exact .inl ⟨rfl, hp⟩
  · rintro (⟨rfl, hp⟩ | ⟨⟨⟨b, hb, hp⟩, hq⟩, hqa⟩)
    · refine ⟨⟨a, hlast, by rwa [List.take_left]⟩, fun j b hj hb => ?_⟩
      -- Behind the new entry there is none.
      obtain ⟨hlt, -⟩ | ⟨rfl, -⟩ := entry_of_concat hb <;> omega
    · refine ⟨⟨b, (hfront hb).1, by rwa [(hfront hb).2]⟩, fun j c hij hc => ?_⟩
      obtain ⟨-, hc, htake⟩ | ⟨rfl, rfl, htake⟩ := entry_of_concat hc
      · rw [htake]
        exact hq j c hij hc
      · rwa [htake]

theorem exists_sinceAt_concat :
    (∃ i, SinceAt p q (l ++ [a]) i) ↔ p l a ∨ (∃ i, SinceAt p q l i) ∧ q l a := by
  simp only [sinceAt_concat, exists_or, exists_and_right, exists_eq, true_and]

end SinceAt

/-- The value that the last of the entries to give one gives, or the value at first if none gives one. -/
def lastGiven {α β : Type} (given? : α → Option β) (first : β) (l : List α) : β :=
  (l.reverse.findSome? given?).getD first

theorem lastGiven_concat {α β : Type} (given? : α → Option β) (first : β) (l : List α) (a : α) :
    lastGiven given? first (l ++ [a]) = (given? a).getD (lastGiven given? first l) := by
  unfold lastGiven
  rw [List.reverse_append, List.reverse_singleton, List.singleton_append, List.findSome?_cons]
  cases given? a <;> rfl

end ScenarioStubs
