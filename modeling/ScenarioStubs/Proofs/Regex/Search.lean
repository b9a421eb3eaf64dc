import ScenarioStubs.Proofs.Regex.Places

/-!
# Searching finds what is matched

The places where a search of an expression arrives are those to which a match leads (`Expr.reach_makes`), so a text is
found to hold a match exactly if it holds one (`Expr.isFoundIn_iff`).

A repetition makes steps of one relation between places, none of which goes back. Places are few: more steps than
there are characters between two places stay somewhere (`Steps.exists_stay`), so steps beyond that number neither gain
nor lose anything (`steps_iff_of_lt`, `Steps.exists_short`). This is why it is enough to count as many copies as the
text has places (`mem_iterate`, `mem_spread`).
-/

namespace ScenarioStubs.Regex

namespace Place

/-- A number of steps of a relation between places. -/
def Steps (R : Place → Place → Prop) : Nat → Place → Place → Prop
  | 0, p, q => p = q
  | n + 1, p, q => ∃ m, R p m ∧ Steps R n m q

/-- No step goes back. -/
def GoesOn (R : Place → Place → Prop) : Prop := ∀ {p q}, R p q → ∃ w, p.Leads w q

variable {text : List Char} {R : Place → Place → Prop} {p q r : Place} {i n k : Nat}

theorem Leads.eq_of_index {w : List Char} (h : p.Leads w q) (hindex : q.index = p.index) : p = q := by
  have hw : w = [] := List.eq_nil_of_length_eq_zero (by have := h.index; omega)
  obtain ⟨hrest, hbefore, -⟩ := h
  subst hw
  cases p
  cases q
  simp_all [behind]

theorem Leads.head?_rest {w : List Char} (h : p.Leads w q) : p.rest.head? = ahead w q.rest.head? := by
  rw [h.rest]
  simp [ahead, List.head?_append]

/-- A stretch of two parts leads over the place between them. -/
theorem Leads.between {v w : List Char} (h : p.Leads (v ++ w) q) : ∃ m, p.Leads v m ∧ m.Leads w q := by
  obtain ⟨m, hm, hrest⟩ := exists_leads (h.rest.trans (List.append_assoc v w q.rest))
  refine ⟨m, hm, hrest, ?_, ?_⟩
  · rw [h.before, hm.before, behind_append]
  · rw [h.index, hm.index, List.length_append, Nat.add_assoc]

theorem Steps.one (h : R p q) : Steps R 1 p q := ⟨q, h, rfl⟩

theorem Steps.append (h : Steps R n p q) (h' : Steps R k q r) : Steps R (n + k) p r := by
  induction n generalizing p with
  | zero =>
    cases h
    rwa [Nat.zero_add]
  | succ n ih =>
    obtain ⟨m, hpm, hmq⟩ := h
    rw [Nat.succ_add]
    exact ⟨m, hpm, ih hmq⟩

theorem Steps.split (h : Steps R (n + k) p r) : ∃ q, Steps R n p q ∧ Steps R k q r := by
  induction n generalizing p with
  | zero => exact ⟨p, rfl, by rwa [Nat.zero_add] at h⟩
  | succ n ih =>
    rw [Nat.succ_add] at h
    obtain ⟨m, hpm, hmr⟩ := h
    obtain ⟨q, hmq, hqr⟩ := ih hmr
    exact ⟨q, ⟨m, hpm, hmq⟩, hqr⟩

theorem Steps.leads (hR : GoesOn R) (h : Steps R n p q) : ∃ w, p.Leads w q := by
  induction n generalizing p with
  | zero => exact ⟨[], h ▸ .refl p⟩
  | succ n ih =>
    obtain ⟨m, hpm, hmq⟩ := h
    obtain ⟨v, hv⟩ := hR hpm
    obtain ⟨w, hw⟩ := ih hmq
    exact ⟨v ++ w, hv.trans hw⟩

theorem Steps.index_le (hR : GoesOn R) (h : Steps R n p q) : p.index ≤ q.index := by
  obtain ⟨w, hw⟩ := h.leads hR
  have := hw.index
  omega

/-- More steps than there are characters between two places stay somewhere. -/
theorem Steps.exists_stay (hR : GoesOn R) (h : Steps R n p q) (hn : q.index < p.index + n) :
    ∃ i k m, i + (1 + k) = n ∧ Steps R i p m ∧ R m m ∧ Steps R k m q := by
  induction n generalizing p with
  | zero =>
    cases h
    omega
  | succ n ih =>
    obtain ⟨m, hpm, hmq⟩ := h
    obtain ⟨w, hw⟩ := hR hpm
    by_cases hindex : m.index = p.index
    · obtain rfl : p = m := hw.eq_of_index hindex
      exact ⟨0, n, p, by omega, rfl, hpm, hmq⟩
    · have := hw.index
      obtain ⟨i, k, s, hik, hms, hs, hsq⟩ := ih hmq (by omega)
      exact ⟨i + 1, k, s, by omega, ⟨m, hpm, hms⟩, hs, hsq⟩

theorem Steps.succ (hR : GoesOn R) (h : Steps R n p q) (hn : q.index < p.index + n) : Steps R (n + 1) p q := by
  obtain ⟨i, k, m, rfl, hpm, hm, hmq⟩ := h.exists_stay hR hn
  have := hpm.append ((Steps.one hm).append ((Steps.one hm).append hmq))
  rwa [show i + (1 + k) + 1 = i + (1 + (1 + k)) by omega]

theorem Steps.pred (hR : GoesOn R) (h : Steps R (n + 1) p q) (hn : q.index < p.index + (n + 1)) : Steps R n p q := by
  obtain ⟨i, k, m, hik, hpm, -, hmq⟩ := h.exists_stay hR hn
  rw [show n = i + k by omega]
  exact hpm.append hmq

/-- Beyond the number of characters between two places it does not matter how many steps are made. -/
theorem steps_iff_of_lt (hR : GoesOn R) (hn : q.index < p.index + n) (hk : n ≤ k) : Steps R k p q ↔ Steps R n p q := by
  induction hk with
  | refl => exact Iff.rfl
  | step hk ih =>
    have hk : n ≤ _ := hk
    exact ⟨fun h => ih.mp (h.pred hR (by omega)), fun h => (ih.mpr h).succ hR (by omega)⟩

/-- One comes from one place to another in no more steps than there are characters between them. -/
theorem Steps.exists_short (hR : GoesOn R) (h : Steps R n p q) :
    ∃ k, k ≤ n ∧ p.index + k ≤ q.index ∧ Steps R k p q := by
  induction n with
  | zero => exact ⟨0, Nat.le_refl 0, h.index_le hR, h⟩
  | succ n ih =>
    by_cases hn : q.index < p.index + (n + 1)
    · obtain ⟨k, hk, hindex, hsteps⟩ := ih (h.pred hR hn)
      exact ⟨k, by omega, hindex, hsteps⟩
    · exact ⟨n + 1, Nat.le_refl _, by omega, h⟩

/-! ## Steps of lists of places -/

/-- A function on lists of places makes a step of a relation from each place. -/
structure Makes (text : List Char) (R : Place → Place → Prop) (step : List Place → List Place) : Prop where
  descending : ∀ {ps}, Descending text ps → Descending text (step ps)
  mem_iff : ∀ {ps}, Descending text ps → ∀ q, q ∈ step ps ↔ ∃ p ∈ ps, R p q

variable {step : List Place → List Place} {ps stepped found newest : List Place}

/-- What an iteration leaves: the places after all steps, and with them those before the last step. -/
structure Iterated (text : List Char) (R : Place → Place → Prop) (n : Nat) (ps : List Place)
    (result : List Place × List Place) : Prop where
  stepped : Descending text result.1
  descending : Descending text result.2
  closed : ∀ {p q}, p ∈ result.1 → R p q → q ∈ result.2
  mem_iff : ∀ q, q ∈ result.2 ↔ ∃ p ∈ ps, Steps R n p q

/-- What some steps lead to from the places one step on, one step more leads to. -/
theorem exists_steps_succ_iff {next : List Place} (hnext : ∀ m, m ∈ next ↔ ∃ p ∈ ps, R p m) (n : Nat) (q : Place) :
    (∃ m ∈ next, Steps R n m q) ↔ ∃ p ∈ ps, Steps R (n + 1) p q := by
  constructor
  · rintro ⟨m, hm, hmq⟩
    obtain ⟨p, hp, hpm⟩ := (hnext m).mp hm
    exact ⟨p, hp, m, hpm, hmq⟩
  · rintro ⟨p, hp, m, hpm, hmq⟩
    exact ⟨m, (hnext m).mpr ⟨p, hp, hpm⟩, hmq⟩

/-- Where a step leads nowhere new and loses nothing, no number of steps does. -/
theorem mem_iff_of_fixed (hfixed : ∀ q, q ∈ ps ↔ ∃ p ∈ ps, R p q) (n : Nat) (q : Place) :
    q ∈ ps ↔ ∃ p ∈ ps, Steps R n p q := by
  induction n generalizing q with
  | zero => exact ⟨fun h => ⟨q, h, rfl⟩, fun ⟨p, hp, h⟩ => h ▸ hp⟩
  | succ n ih => exact (ih q).trans (exists_steps_succ_iff hfixed n q)

theorem iterated_iterate (hstep : Makes text R step) (hstepped : Descending text stepped) (hps : Descending text ps)
    (hclosed : ∀ {p q}, p ∈ stepped → R p q → q ∈ ps) (n : Nat) :
    Iterated text R n ps (iterate step n stepped ps) := by
  induction n generalizing stepped ps with
  | zero => exact ⟨hstepped, hps, hclosed, fun q => ⟨fun h => ⟨q, h, rfl⟩, fun ⟨p, hp, h⟩ => h ▸ hp⟩⟩
  | succ n ih =>
    unfold iterate
    dsimp only
    split
    case isTrue hsame =>
      -- The last step led to the same places, so the steps that are left out would as well.
      have hfixed : ps = step ps := eq_of_same hps (hstep.descending hps) hsame
      have hmem (q : Place) : q ∈ ps ↔ ∃ p ∈ ps, R p q :=
        (iff_of_eq (congrArg (q ∈ ·) hfixed)).trans (hstep.mem_iff hps q)
      exact ⟨hps, hps, fun hp h => (hmem _).mpr ⟨_, hp, h⟩, mem_iff_of_fixed hmem (n + 1)⟩
    case isFalse =>
      have h := ih hps (hstep.descending hps) fun hp h => (hstep.mem_iff hps _).mpr ⟨_, hp, h⟩
      have hsteps := exists_steps_succ_iff (hstep.mem_iff hps) n
      exact ⟨h.stepped, h.descending, h.closed, fun q => (h.mem_iff q).trans (hsteps q)⟩

/-- What has been found when the newest places are still to be followed: from all others no step leads out of it. -/
structure Followed (text : List Char) (R : Place → Place → Prop) (found newest : List Place) : Prop where
  descending : Descending text found
  descending_newest : Descending text newest
  subset : ∀ {p}, p ∈ newest → p ∈ found
  closed : ∀ {p q}, p ∈ found → p ∉ newest → R p q → q ∈ found

/-- One round of spreading: the places that the newest lead to, those already found left out. -/
theorem Followed.next (h : Followed text R found newest) (hstep : Makes text R step) :
    Followed text R (merge (without (step newest) found) found) (without (step newest) found) := by
  have hreached : Descending text (step newest) := hstep.descending h.descending_newest
  have hnext : Descending text (without (step newest) found) := hreached.without h.descending
  refine ⟨hnext.merge h.descending, hnext, fun hp => (mem_merge hnext h.descending).mpr (.inl hp), ?_⟩
  intro p q hp hnew hpq
  rw [mem_merge hnext h.descending] at hp ⊢
  have hp : p ∈ found := hp.resolve_left hnew
  by_cases hq : q ∈ found
  · exact .inr hq
  · -- only a place still to be followed leads to one that is not yet found
    have hnewest : p ∈ newest := Classical.byContradiction fun hold => hq (h.closed hp hold hpq)
    have hreach : q ∈ step newest := (hstep.mem_iff h.descending_newest q).mpr ⟨p, hnewest, hpq⟩
    exact .inl ((mem_without hreached h.descending).mpr ⟨hreach, hq⟩)

theorem mem_found_of_steps (hclosed : ∀ {p q}, p ∈ found → R p q → q ∈ found) (hp : p ∈ found)
    (h : Steps R n p q) : q ∈ found := by
  induction n generalizing p with
  | zero => exact h ▸ hp
  | succ n ih =>
    obtain ⟨m, hpm, hmq⟩ := h
    exact ih (hclosed hp hpm) hmq

theorem descending_spread (hstep : Makes text R step) (h : Followed text R found newest) (n : Nat) :
    Descending text (spread step n found newest) := by
  induction n generalizing found newest with
  | zero => exact h.descending
  | succ n ih =>
    cases newest with
    | nil => exact h.descending
    | cons => exact ih (h.next hstep)

/-- Spreading finds what is reached in a bounded number of steps. -/
theorem mem_spread (hstep : Makes text R step) (h : Followed text R found newest) (n : Nat) :
    q ∈ spread step n found newest ↔ ∃ p ∈ found, ∃ k ≤ n, Steps R k p q := by
  induction n generalizing found newest with
  | zero =>
    constructor
    · exact fun hq => ⟨q, hq, 0, Nat.le_refl 0, rfl⟩
    · rintro ⟨p, hp, k, hk, hsteps⟩
      obtain rfl : k = 0 := Nat.le_zero.mp hk
      exact hsteps ▸ hp
  | succ n ih =>
    cases newest with
    | nil =>
      -- Nothing is left to be followed, so what has been found is closed under steps.
      constructor
      · exact fun hq => ⟨q, hq, 0, Nat.zero_le _, rfl⟩
      · rintro ⟨p, hp, k, -, hsteps⟩
        exact mem_found_of_steps (fun hp hpq => h.closed hp (by simp) hpq) hp hsteps
    | cons s newest =>
      have hnext := h.next hstep
      have hreached : Descending text (step (s :: newest)) := hstep.descending h.descending_newest
      unfold spread
      rw [ih hnext]
      constructor
      · rintro ⟨m, hm, k, hk, hmq⟩
        rcases (mem_merge hnext.descending_newest h.descending).mp hm with hm | hm
        · obtain ⟨p, hp, hpm⟩ := (hstep.mem_iff h.descending_newest m).mp ((mem_without hreached h.descending).mp hm).1
          exact ⟨p, h.subset hp, k + 1, by omega, m, hpm, hmq⟩
        · exact ⟨m, hm, k, by omega, hmq⟩
      · rintro ⟨p, hp, k, hk, hpq⟩
        cases k with
        | zero => exact ⟨p, (mem_merge hnext.descending_newest h.descending).mpr (.inr hp), 0, Nat.zero_le n, hpq⟩
        | succ k =>
          obtain ⟨m, hpm, hmq⟩ := hpq
          refine ⟨m, ?_, k, by omega, hmq⟩
          by_cases hnew : p ∈ without (step (s :: newest)) found
          · exact absurd hp ((mem_without hreached h.descending).mp hnew).2
          · exact hnext.closed ((mem_merge hnext.descending_newest h.descending).mpr (.inr hp)) hnew hpm

/-- There are fewer characters from a place of a list to the end of the text than rounds are made. -/
theorem index_lt_rounds (hR : GoesOn R) (hps : Descending text ps) (hp : p ∈ ps) (h : Steps R n p q) :
    q.index < p.index + rounds ps := by
  cases hlast : ps.getLast? with
  | none => exact absurd (List.getLast?_eq_none_iff.mp hlast ▸ hp) (by simp)
  | some s =>
    have hs : s ∈ ps := List.mem_of_getLast? hlast
    obtain ⟨w, hw⟩ := h.leads hR
    have hq := (hps.of p hp).leads hw
    have hle := hps.index_getLast_le hlast hp
    have hlength := hq.index_add_length
    have hlength' := (hps.of s hs).index_add_length
    unfold rounds
    rw [hlast]
    dsimp only
    omega

theorem Iterated.followed {result : List Place × List Place} (h : Iterated text R n ps result) :
    Followed text R result.2 (without result.2 result.1) where
  descending := h.descending
  descending_newest := h.descending.without h.stepped
  subset hp := ((mem_without h.descending h.stepped).mp hp).1
  closed {p q} hp hold hpq := by
    have hstepped : p ∈ result.1 :=
      Classical.byContradiction fun hnew => hold ((mem_without h.descending h.stepped).mpr ⟨hp, hnew⟩)
    exact h.closed hstepped hpq

/-- As many steps as rounds are enough where more are asked for. -/
theorem exists_steps_min_rounds (hR : GoesOn R) (hps : Descending text ps) (n : Nat) :
    (∃ p ∈ ps, Steps R (min n (rounds ps)) p q) ↔ ∃ p ∈ ps, Steps R n p q := by
  rcases Nat.le_total n (rounds ps) with hle | hle
  · rw [Nat.min_eq_left hle]
  · rw [Nat.min_eq_right hle]
    constructor
    · rintro ⟨p, hp, h⟩
      exact ⟨p, hp, (steps_iff_of_lt hR (index_lt_rounds hR hps hp h) hle).mpr h⟩
    · rintro ⟨p, hp, h⟩
      exact ⟨p, hp, (steps_iff_of_lt hR (index_lt_rounds hR hps hp h) hle).mp h⟩

/-- Whatever is reached is reached in no more steps than rounds. -/
theorem Steps.exists_le_rounds (hR : GoesOn R) (hps : Descending text ps) (hp : p ∈ ps) (h : Steps R n p q) :
    ∃ k, k ≤ n ∧ k ≤ rounds ps ∧ Steps R k p q := by
  obtain ⟨k, hk, hindex, hsteps⟩ := h.exists_short hR
  have := index_lt_rounds hR hps hp h
  exact ⟨k, hk, by omega, hsteps⟩

end Place

/-! ## Expressions -/

namespace Expr

open Place

/-- No repetition asks for more copies at least than at most. -/
def Ordered : Expr → Prop
  | .repeated e min max _ => (∀ most, max = some most → min ≤ most) ∧ e.Ordered
  | .seq e f | .alt e f => e.Ordered ∧ f.Ordered
  | .group _ e => e.Ordered
  | .empty | .chars _ | .look _ => True

/-- A match of an expression begins at one place and ends at another. -/
def Spans (e : Expr) (p q : Place) : Prop := ∃ w, p.Leads w q ∧ e.Matches p.before w q.rest.head?

variable {text : List Char} {e f : Expr} {p q : Place} {min : Nat} {max : Option Nat} {greedy : Bool}

theorem goesOn_spans (e : Expr) : GoesOn e.Spans := fun ⟨w, hw, _⟩ => ⟨w, hw⟩

theorem spans_empty : Expr.empty.Spans p q ↔ p = q := by
  constructor
  · rintro ⟨w, hw, hmatch⟩
    cases hmatch
    exact hw.eq_of_index hw.index
  · rintro rfl
    exact ⟨[], .refl p, .empty⟩

theorem spans_look {l : Look} : (Expr.look l).Spans p q ↔ p = q ∧ p.satisfies l = true := by
  constructor
  · rintro ⟨w, hw, hmatch⟩
    cases hmatch with
    | look hl =>
      obtain rfl : p = q := hw.eq_of_index hw.index
      exact ⟨rfl, hl⟩
  · rintro ⟨rfl, hl⟩
    exact ⟨[], .refl p, .look hl⟩

theorem spans_chars {s : Unicode.CharSet} : (Expr.chars s).Spans p q ↔ p.step? s = some q := by
  obtain ⟨i, before, rest⟩ := p
  constructor
  · rintro ⟨w, ⟨hrest, hbefore, hindex⟩, hmatch⟩
    cases hmatch with
    | @chars _ c _ _ hc =>
      cases q
      simp_all [step?, behind]
  · intro h
    cases rest with
    | nil => cases h
    | cons c cs =>
      unfold step? at h
      dsimp only at h
      split at h
      case isTrue hc =>
        cases h
        exact ⟨[c], ⟨rfl, rfl, rfl⟩, .chars hc⟩
      case isFalse => cases h

theorem spans_seq : (Expr.seq e f).Spans p q ↔ ∃ m, e.Spans p m ∧ f.Spans m q := by
  constructor
  · rintro ⟨w, hw, hmatch⟩
    cases hmatch with
    | @seq _ _ _ u v _ he hf =>
      obtain ⟨m, hu, hv⟩ := hw.between
      refine ⟨m, ⟨u, hu, ?_⟩, v, hv, ?_⟩
      · rwa [hv.head?_rest]
      · rwa [hu.before]
  · rintro ⟨m, ⟨u, hu, he⟩, v, hv, hf⟩
    rw [hv.head?_rest] at he
    rw [hu.before] at hf
    exact ⟨u ++ v, hu.trans hv, .seq he hf⟩

theorem spans_alt : (Expr.alt e f).Spans p q ↔ e.Spans p q ∨ f.Spans p q := by
  constructor
  · rintro ⟨w, hw, hmatch⟩
    cases hmatch with
    | altLeft h => exact .inl ⟨w, hw, h⟩
    | altRight h => exact .inr ⟨w, hw, h⟩
  · rintro (⟨w, hw, h⟩ | ⟨w, hw, h⟩)
    · exact ⟨w, hw, .altLeft h⟩
    · exact ⟨w, hw, .altRight h⟩

theorem spans_group {capture : Option Nat} : (Expr.group capture e).Spans p q ↔ e.Spans p q := by
  constructor
  · rintro ⟨w, hw, hmatch⟩
    cases hmatch with
    | group h => exact ⟨w, hw, h⟩
  · rintro ⟨w, hw, h⟩
    exact ⟨w, hw, .group h⟩

/-- A repetition makes as many steps as it has copies. -/
theorem exists_steps_of_matches {before after : Option Char} {w : List Char}
    (h : (Expr.repeated e min max greedy).Matches before w after) (hw : p.Leads w q) (hbefore : p.before = before)
    (hafter : q.rest.head? = after) :
    ∃ n, min ≤ n ∧ (∀ most, max = some most → n ≤ most) ∧ Steps e.Spans n p q := by
  generalize hx : Expr.repeated e min max greedy = x at h
  induction h generalizing min max p with
  | done =>
    cases hx
    exact ⟨0, Nat.le_refl 0, fun _ _ => Nat.zero_le _, hw.eq_of_index hw.index⟩
  | more hmax he _ _ ih =>
    cases hx
    obtain ⟨m, hu, hv⟩ := hw.between
    obtain ⟨n, hmin, hmost, hsteps⟩ := ih hv (by rw [hu.before, hbefore]) hafter rfl
    refine ⟨n + 1, by omega, ?_, m, ⟨_, hu, ?_⟩, hsteps⟩
    · rintro most rfl
      have hpos : most ≠ 0 := fun h => hmax (congrArg some h)
      have := hmost (most - 1) rfl
      omega
    · rw [hbefore, hv.head?_rest, hafter]
      exact he
  | _ => cases hx

theorem spans_of_steps {n : Nat} (hmin : min ≤ n) (hmost : ∀ most, max = some most → n ≤ most)
    (h : Steps e.Spans n p q) : (Expr.repeated e min max greedy).Spans p q := by
  induction n generalizing min max p with
  | zero =>
    obtain rfl : min = 0 := Nat.le_zero.mp hmin
    exact ⟨[], h ▸ .refl p, .done⟩
  | succ n ih =>
    obtain ⟨m, ⟨u, hu, he⟩, hmq⟩ := h
    have hmost' : ∀ most, max.map (· - 1) = some most → n ≤ most := by
      intro most hmax
      obtain ⟨most', hmax', rfl⟩ := Option.map_eq_some_iff.mp hmax
      have := hmost most' hmax'
      omega
    obtain ⟨v, hv, hrest⟩ : (Expr.repeated e (min - 1) (max.map (· - 1)) greedy).Spans m q :=
      ih (by omega) hmost' hmq
    rw [hv.head?_rest] at he
    rw [hu.before] at hrest
    refine ⟨u ++ v, hu.trans hv, .more ?_ he hrest⟩
    intro hzero
    have := hmost 0 hzero
    omega

theorem spans_repeated : (Expr.repeated e min max greedy).Spans p q ↔
    ∃ n, min ≤ n ∧ (∀ most, max = some most → n ≤ most) ∧ Steps e.Spans n p q := by
  constructor
  · rintro ⟨w, hw, hmatch⟩
    exact exists_steps_of_matches hmatch hw rfl rfl
  · rintro ⟨n, hmin, hmost, hsteps⟩
    exact spans_of_steps hmin hmost hsteps

/-! ## Searching -/

theorem makes_chars (s : Unicode.CharSet) : Makes text (Expr.chars s).Spans (Expr.chars s).reach where
  descending {ps} hps := by
    refine ⟨fun q hq => ?_, ?_⟩
    · obtain ⟨p, hp, hstep⟩ := List.mem_filterMap.mp hq
      obtain ⟨w, hw, -⟩ := spans_chars.mpr hstep
      exact (hps.of p hp).leads hw
    · refine hps.pairwise.filterMap _ fun p p' hlt q hq q' hq' => ?_
      obtain ⟨w, hw, hmatch⟩ := spans_chars.mpr hq
      obtain ⟨w', hw', hmatch'⟩ := spans_chars.mpr hq'
      cases hmatch
      cases hmatch'
      have := hw.index
      have := hw'.index
      simp_all
  mem_iff _ q := by
    unfold reach
    simp only [List.mem_filterMap, spans_chars]

/-- The search of a repetition makes the steps that must be made, then spreads by those that may. -/
theorem mem_reach_repeated (he : Makes text e.Spans e.reach) (hordered : ∀ most, max = some most → min ≤ most)
    {ps : List Place} (hps : Descending text ps) : Descending text ((Expr.repeated e min max greedy).reach ps) ∧
    ∀ q, q ∈ (Expr.repeated e min max greedy).reach ps ↔ ∃ p ∈ ps, (Expr.repeated e min max greedy).Spans p q := by
  have hR : GoesOn e.Spans := goesOn_spans e
  have hsteps := iterated_iterate he .nil hps (by simp) (Nat.min min (rounds ps))
  unfold reach
  generalize iterate e.reach (Nat.min min (rounds ps)) [] ps = result at hsteps
  obtain ⟨stepped, least⟩ := result
  have hleast (m : Place) : m ∈ least ↔ ∃ p ∈ ps, Steps e.Spans min p m :=
    (hsteps.mem_iff m).trans (exists_steps_min_rounds hR hps min)
  have hfollowed := hsteps.followed
  refine ⟨descending_spread he hfollowed _, fun q => (mem_spread he hfollowed _).trans ?_⟩
  dsimp only
  simp only [spans_repeated]
  constructor
  · rintro ⟨m, hm, k, hk, hmq⟩
    obtain ⟨p, hp, hpm⟩ := (hleast m).mp hm
    refine ⟨p, hp, min + k, Nat.le_add_right min k, ?_, hpm.append hmq⟩
    rintro most rfl
    have := hordered most rfl
    have : k ≤ most - min := Nat.le_trans hk (Nat.min_le_left _ _)
    omega
  · rintro ⟨p, hp, n, hmin, hmost, hpq⟩
    obtain ⟨k, rfl⟩ := Nat.exists_eq_add_of_le hmin
    obtain ⟨m, hpm, hmq⟩ := hpq.split
    have hm : m ∈ least := (hleast m).mpr ⟨p, hp, hpm⟩
    obtain ⟨k', hk', hrounds, hmq'⟩ := hmq.exists_le_rounds hR hsteps.descending hm
    refine ⟨m, hm, k', ?_, hmq'⟩
    cases max with
    | none => exact hrounds
    | some most =>
      have := hmost most rfl
      exact Nat.le_min.mpr ⟨by omega, hrounds⟩

/-- A search arrives where matches lead. -/
theorem makes_reach (text : List Char) (h : e.Ordered) : Makes text e.Spans e.reach := by
  induction e with
  | empty => exact ⟨id, fun _ q => by simp [reach, spans_empty]⟩
  | chars s => exact makes_chars s
  | look l =>
    refine ⟨fun hps => hps.filter _, fun _ q => ?_⟩
    unfold reach
    rw [List.mem_filter]
    simp only [spans_look]
    constructor
    · rintro ⟨hq, hl⟩
      exact ⟨q, hq, rfl, hl⟩
    · rintro ⟨p, hp, rfl, hl⟩
      exact ⟨hp, hl⟩
  | seq e f ihe ihf =>
    have he := ihe h.1
    have hf := ihf h.2
    refine ⟨fun hps => hf.descending (he.descending hps), fun hps q => ?_⟩
    unfold reach
    rw [hf.mem_iff (he.descending hps)]
    simp only [he.mem_iff hps, spans_seq]
    grind
  | alt e f ihe ihf =>
    have he := ihe h.1
    have hf := ihf h.2
    refine ⟨fun hps => (he.descending hps).merge (hf.descending hps), fun hps q => ?_⟩
    unfold reach
    rw [mem_merge (he.descending hps) (hf.descending hps), he.mem_iff hps, hf.mem_iff hps]
    simp only [spans_alt]
    grind
  | repeated e min max greedy ih =>
    exact ⟨fun hps => (mem_reach_repeated (ih h.2) h.1 hps).1, fun hps => (mem_reach_repeated (ih h.2) h.1 hps).2⟩
  | group capture e ih =>
    have he := ih h
    refine ⟨he.descending, fun hps q => ?_⟩
    unfold reach
    simp only [spans_group]
    exact he.mem_iff hps q

/-- A text is found to hold a match exactly if it holds one. -/
theorem isFoundIn_iff (h : e.Ordered) : e.isFoundIn text = true ↔ e.Found text := by
  have hall := descending_everywhere text
  unfold isFoundIn
  rw [Bool.not_eq_true', List.isEmpty_eq_false_iff_exists_mem]
  simp only [(makes_reach text h).mem_iff hall, mem_everywhere]
  constructor
  · rintro ⟨q, p, ⟨u, hu, hbefore, -⟩, w, hw, hmatch⟩
    exact ⟨u, w, q.rest, by rw [hu, hw.rest, List.append_assoc], hbefore ▸ hmatch⟩
  · rintro ⟨u, w, v, htext, hmatch⟩
    have hp : Place.Of text ⟨u.length, u.getLast?, w ++ v⟩ := ⟨u, by rw [htext, List.append_assoc], rfl, rfl⟩
    obtain ⟨q, hw, rfl⟩ := exists_leads (p := ⟨u.length, u.getLast?, w ++ v⟩) rfl
    exact ⟨q, _, hp, w, hw, hmatch⟩

end Expr

end ScenarioStubs.Regex
