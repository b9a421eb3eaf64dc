import ScenarioStubs.Text.Split
import ScenarioStubs.Text.WhiteSpace

/-!
# Splitting and trimming

Splitting undoes joining: the segments of a text without separators are that text alone (`splitAll_of_not_mem`), and a
separator parts the segments before it from those behind it (`splitAll_append`); the first separator parts a text where
one was put between a part without separators and any other (`splitFirst?_append_cons`). What is trimmed neither begins
nor ends with a character to be trimmed, and trimming leaves it alone (`trimBoth_eq_self`, `trimBoth_trimBoth`).
-/

namespace ScenarioStubs.Text

variable {sep : Char} {cs before after : List Char}

/-! ## Splitting -/

theorem splitAll_of_not_mem (h : sep ∉ cs) : splitAll sep cs = [cs] := by
  induction cs with
  | nil => rfl
  | cons c cs ih =>
    have hc : c ≠ sep := (List.ne_of_not_mem_cons h).symm
    rw [splitAll, if_neg hc, ih (List.not_mem_of_not_mem_cons h)]

theorem splitAll_ne_nil (sep : Char) (cs : List Char) : splitAll sep cs ≠ [] := by
  cases cs with
  | nil => exact List.cons_ne_nil _ _
  | cons c cs =>
    unfold splitAll
    split
    · exact List.cons_ne_nil _ _
    · split <;> exact List.cons_ne_nil _ _

/-- A character in front that is no separator comes first in the first segment. -/
theorem splitAll_cons_of_ne {c : Char} (h : c ≠ sep) (cs : List Char) :
    ∃ first rest, splitAll sep cs = first :: rest ∧ splitAll sep (c :: cs) = (c :: first) :: rest := by
  obtain ⟨first, rest, hsplit⟩ := List.exists_cons_of_ne_nil (splitAll_ne_nil sep cs)
  refine ⟨first, rest, hsplit, ?_⟩
  rw [splitAll, if_neg h, hsplit]

/-- A separator parts the segments before it from those behind it. -/
theorem splitAll_append (sep : Char) (before after : List Char) :
    splitAll sep (before ++ sep :: after) = splitAll sep before ++ splitAll sep after := by
  induction before with
  | nil => exact if_pos rfl
  | cons c before ih =>
    by_cases hc : c = sep
    · rw [List.cons_append, splitAll, splitAll, if_pos hc, if_pos hc, ih]
      rfl
    · obtain ⟨first, rest, hsplit, hcons⟩ := splitAll_cons_of_ne hc before
      rw [List.cons_append, splitAll, if_neg hc, ih, hcons, hsplit]
      rfl

/-- A separator ends the segment before it. -/
theorem splitAll_append_cons (h : sep ∉ before) (after : List Char) :
    splitAll sep (before ++ sep :: after) = before :: splitAll sep after := by
  rw [splitAll_append, splitAll_of_not_mem h]
  rfl

/-- Segments hold no separator. -/
theorem not_mem_of_mem_splitAll {segment : List Char} (h : segment ∈ splitAll sep cs) : sep ∉ segment := by
  induction cs generalizing segment with
  | nil =>
    rw [List.mem_singleton.mp h]
    exact List.not_mem_nil
  | cons c cs ih =>
    unfold splitAll at h
    split at h
    case isTrue =>
      rcases List.mem_cons.mp h with rfl | h
      · exact List.not_mem_nil
      · exact ih h
    case isFalse hc =>
      have hc : sep ≠ c := Ne.symm hc
      split at h
      case h_1 =>
        rw [List.mem_singleton.mp h]
        exact List.not_mem_cons_of_ne_of_not_mem hc List.not_mem_nil
      case h_2 first rest heq =>
        rw [heq] at ih
        rcases List.mem_cons.mp h with rfl | h
        · exact List.not_mem_cons_of_ne_of_not_mem hc (ih List.mem_cons_self)
        · exact ih (List.mem_cons_of_mem _ h)

theorem splitFirst?_append_cons (h : sep ∉ before) (after : List Char) :
    splitFirst? sep (before ++ sep :: after) = some (before, after) := by
  induction before with
  | nil => exact if_pos rfl
  | cons c before ih =>
    have hc : c ≠ sep := (List.ne_of_not_mem_cons h).symm
    rw [List.cons_append, splitFirst?, if_neg hc, ih (List.not_mem_of_not_mem_cons h)]
    rfl

/-- What comes before the first separator holds none. -/
theorem not_mem_of_splitFirst? (h : splitFirst? sep cs = some (before, after)) : sep ∉ before := by
  induction cs generalizing before with
  | nil => cases h
  | cons c cs ih =>
    unfold splitFirst? at h
    split at h
    case isTrue =>
      cases h
      exact List.not_mem_nil
    case isFalse hc =>
      obtain ⟨⟨before', after'⟩, hrest, heq⟩ := Option.map_eq_some_iff.mp h
      cases heq
      exact List.not_mem_cons_of_ne_of_not_mem (Ne.symm hc) (ih hrest)

/-- What comes before the first separator is part of the text. -/
theorem mem_of_splitFirst? (h : splitFirst? sep cs = some (before, after)) {c : Char} (hc : c ∈ before) : c ∈ cs := by
  induction cs generalizing before with
  | nil => cases h
  | cons c' cs ih =>
    unfold splitFirst? at h
    split at h
    case isTrue =>
      cases h
      cases hc
    case isFalse =>
      obtain ⟨⟨before', after'⟩, hrest, heq⟩ := Option.map_eq_some_iff.mp h
      cases heq
      rcases List.mem_cons.mp hc with rfl | hc
      · exact List.mem_cons_self
      · exact List.mem_cons_of_mem _ (ih hrest hc)

/-! ## Trimming -/

variable {p : Char → Bool}

theorem dropWhile_eq_self (h : ∀ c ∈ cs.head?, p c = false) : cs.dropWhile p = cs := by
  cases cs with
  | nil => rfl
  | cons c cs => exact List.dropWhile_cons_of_neg (by rw [h c rfl]; exact Bool.false_ne_true)

/-- A text that neither begins nor ends with a character to be trimmed stays as it is. -/
theorem trimBoth_eq_self (hhead : ∀ c ∈ cs.head?, p c = false) (hlast : ∀ c ∈ cs.getLast?, p c = false) :
    trimBoth p cs = cs := by
  have hreverse : ∀ c ∈ cs.reverse.head?, p c = false := by
    rw [List.head?_reverse]
    exact hlast
  rw [trimBoth, dropWhile_eq_self hhead, dropWhile_eq_self hreverse, List.reverse_reverse]

/-- The first and the last character of a text. -/
def ends (cs : List Char) : List Char := cs.head?.toList ++ cs.getLast?.toList

theorem trimBoth_of_ends (h : ∀ c ∈ ends cs, p c = false) : trimBoth p cs = cs := by
  apply trimBoth_eq_self
  · intro c hc
    exact h c (List.mem_append_left _ (Option.mem_toList.mpr hc))
  · intro c hc
    exact h c (List.mem_append_right _ (Option.mem_toList.mpr hc))

/-- A character to be trimmed in front makes no difference. -/
theorem trimBoth_cons {c : Char} (h : p c = true) (cs : List Char) : trimBoth p (c :: cs) = trimBoth p cs := by
  unfold trimBoth
  rw [List.dropWhile_cons_of_pos h]

theorem trimBoth_of_all (h : ∀ c ∈ cs, p c = false) : trimBoth p cs = cs :=
  trimBoth_eq_self (fun c hc => h c (List.mem_of_mem_head? hc)) fun c hc => h c (List.mem_of_mem_getLast? hc)

theorem mem_of_mem_trimBoth {c : Char} (h : c ∈ trimBoth p cs) : c ∈ cs := by
  unfold trimBoth at h
  have h := (List.dropWhile_sublist p).subset (List.mem_reverse.mp h)
  exact (List.dropWhile_sublist p).subset (List.mem_reverse.mp h)

theorem not_of_mem_head?_dropWhile {c : Char} (h : c ∈ (cs.dropWhile p).head?) : p c = false := by
  have hfirst := List.head?_dropWhile_not p cs
  rw [Option.mem_def.mp h] at hfirst
  exact hfirst

/-- What was trimmed at its end begins as it did before, unless nothing is left. -/
theorem head?_reverse_dropWhile {c : Char} (h : c ∈ (cs.reverse.dropWhile p).reverse.head?) : c ∈ cs.head? := by
  obtain ⟨dropped, hdropped⟩ : ∃ dropped, cs = (cs.reverse.dropWhile p).reverse ++ dropped := by
    obtain ⟨front, hfront⟩ := List.dropWhile_suffix p (l := cs.reverse)
    refine ⟨front.reverse, ?_⟩
    rw [← List.reverse_append, hfront, List.reverse_reverse]
  rw [hdropped, List.head?_append, Option.mem_def.mp h]
  rfl

/-- Trimming twice is trimming once. -/
theorem trimBoth_trimBoth (p : Char → Bool) (cs : List Char) : trimBoth p (trimBoth p cs) = trimBoth p cs := by
  apply trimBoth_eq_self
  · intro c hc
    exact not_of_mem_head?_dropWhile (head?_reverse_dropWhile hc)
  · intro c hc
    unfold trimBoth at hc
    rw [List.getLast?_reverse] at hc
    exact not_of_mem_head?_dropWhile hc

end ScenarioStubs.Text
