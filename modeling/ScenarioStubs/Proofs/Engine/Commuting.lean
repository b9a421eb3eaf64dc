import Mathlib.Data.Set.Lattice
import Mathlib.Order.CompletePartialOrder
import ScenarioStubs.Proofs.Engine.Asking

/-!
# Requests that commute

The pairs of a session and a scenario that a request can look at or move are those of the mappings that admit it
(`Engine.pairs`). Two requests with no pair in common, neither of which mints a session, can be answered in either
order:

- answering one of them changes no state that the other looks at (`effectiveState_step_of_disjoint`), so it does not
  change who answers the other and which move is made (`chosen?_step`, `stateAfter_step`);
- whatever the clock reads, the engines that both orders end in are alike but for when sessions were last touched
  (`alikeButClock_step_comm`), and when it stands still, they are the same (`step_comm`).

Together: `requests_commute`.
-/

namespace ScenarioStubs

/-- The operation answers the request `r` in the session `s`, which the request presents or which is given: no session
is minted for it. -/
structure Operation.AsksKept (c : EngineConfig) (op : Operation) (s : SessionId) (r : Request) : Prop where
  asks : op.Asks c s r
  kept : op.minted? c = none

/-! ## Stamps -/

namespace Store

/-- What becomes of the time of the last touch and the mark of session `t`, if it is stored, when a request that names
some scenarios is answered in session `s`. -/
def restamp (s : SessionId) (presented : Bool) (now : Instant) (names : List String) (t : SessionId)
    (stamp : Option (Instant × Bool)) : Option (Instant × Bool) :=
  if t = s then
    let touched := if names = [] then stamp else some (now, stamp.any (·.2))
    if presented then touched.map fun p => (p.1, false) else touched
  else stamp

variable {s s' t : SessionId} {presented presented' : Bool} {names names' : List String}
  {stamp stamp' : Option (Instant × Bool)} {now now' : Instant}

theorem restamp_of_ne (ht : t ≠ s) : restamp s presented now names t stamp = stamp := if_neg ht

theorem restamp_comm : restamp s' presented' now names' t (restamp s presented now names t stamp) =
    restamp s presented now names t (restamp s' presented' now names' t stamp) := by
  by_cases hs : t = s
  · by_cases hs' : t = s'
    · unfold restamp
      cases presented <;> cases presented' <;> by_cases h : names = [] <;> by_cases h' : names' = [] <;>
        cases stamp <;> simp [hs.symm, hs'.symm, h, h']
    · rw [restamp_of_ne hs', restamp_of_ne hs']
  · rw [restamp_of_ne hs, restamp_of_ne hs]

/-- Whether a session is stored and marked does not depend on the clock. -/
theorem restamp_mark (now now' : Instant) (h : stamp.map Prod.snd = stamp'.map Prod.snd) :
    (restamp s presented now names t stamp).map Prod.snd =
      (restamp s presented now' names t stamp').map Prod.snd := by
  unfold restamp
  by_cases hs : t = s
  · cases stamp <;> cases stamp' <;> cases presented <;> by_cases hn : names = [] <;> simp_all
  · rwa [if_neg hs, if_neg hs]

end Store

namespace Engine

/-- The pairs of a request in a session: those of the session and the scenarios that admitting mappings are bound to. -/
def pairs (e : Engine) (s : SessionId) (r : Request) : Set (SessionId × String) := {p | p.1 = s ∧ e.Names r p.2}

/-- The engines differ at most in when their sessions were last touched. -/
structure AlikeButClock (e e' : Engine) : Prop where
  config : e.config = e'.config
  registry : e.registry = e'.registry
  stats : e.stats = e'.stats
  states : ∀ t n, e.store.peek t n = e'.store.peek t n
  /-- The same sessions are stored, with the same marks. -/
  marks : ∀ t, (e.store.stamp t).map Prod.snd = (e'.store.stamp t).map Prod.snd

/-- Engines that differ in nothing but the clock, and not in that either, are the same. -/
theorem AlikeButClock.eq {e e' : Engine} (h : e.AlikeButClock e')
    (hstamps : ∀ t, e.store.stamp t = e'.store.stamp t) : e = e' := by
  have hstore : e.store = e'.store := Store.eq_of_peek_eq h.states hstamps
  obtain ⟨hconfig, hregistry, hstats, -, -⟩ := h
  cases e
  cases e'
  cases hconfig
  cases hregistry
  cases hstats
  cases hstore
  rfl

variable {e e' : Engine} {op op₁ op₂ : Operation} {s s₁ s₂ t : SessionId} {r r₁ r₂ : Request} {n : String}
  {now now' : Instant}

theorem mem_pairs_iff : (t, n) ∈ e.pairs s r ↔ t = s ∧ n ∈ e.touched r := by
  rw [mem_touched_iff]
  rfl

/-! ## After one request -/

section One

variable (h : op.AsksKept e.config s r)
include h

theorem asksKept_step (c : Call) : op.AsksKept (e.step c).config s r := by rwa [step_config]

theorem step_of_asks : e.step ⟨now, op⟩ =
    { e with
      store := if op.presents then (e.storeAfter now s r).adopt s else e.storeAfter now s r
      stats := e.statsAfter s r } := by
  show (e.perform now op).2 = _
  rw [perform_of_asks h.asks h.kept, matched_of_asks h.asks]

theorem registry_step : (e.step ⟨now, op⟩).registry = e.registry := by rw [step_of_asks h]

theorem stats_step : (e.step ⟨now, op⟩).stats = e.statsAfter s r := by rw [step_of_asks h]

theorem touched_step (r' : Request) : (e.step ⟨now, op⟩).touched r' = e.touched r' := by
  unfold touched
  rw [registry_step h]

theorem peek_step (t : SessionId) (n : String) : (e.step ⟨now, op⟩).store.peek t n =
    if t = s ∧ n ∈ e.touched r then some (e.stateAfter s r n) else e.store.peek t n := by
  rw [step_of_asks h, ← peek_storeAfter now t n]
  dsimp only
  split
  · exact Store.peek_adopt _ s t n
  · rfl

theorem stamp_step (t : SessionId) : (e.step ⟨now, op⟩).store.stamp t =
    Store.restamp s op.presents now (e.touched r) t (e.store.stamp t) := by
  rw [step_of_asks h]
  dsimp only
  by_cases ht : t = s
  · subst ht
    have hafter : (e.storeAfter now t r).stamp t =
        if e.touched r = [] then e.store.stamp t else some (now, (e.store.stamp t).any (·.2)) := by
      rw [stamp_storeAfter, Store.isMinted_eq]
      by_cases hn : e.touched r = [] <;> simp [hn]
    rw [Store.restamp, if_pos rfl, ← hafter]
    split
    · rw [Store.stamp_adopt, if_pos rfl]
    · rfl
  · have hother : (e.storeAfter now s r).stamp t = e.store.stamp t := by
      rw [stamp_storeAfter, if_neg fun h => ht h.1]
    rw [Store.restamp_of_ne ht, ← hother]
    split
    · rw [Store.stamp_adopt, if_neg ht]
    · rfl

/-- A request leaves alone all pairs but its own. -/
theorem effectiveState_step_of_not_mem_pairs (hp : (t, n) ∉ e.pairs s r) :
    (e.step ⟨now, op⟩).store.effectiveState t n = e.store.effectiveState t n := by
  unfold Store.effectiveState
  rw [peek_step h, if_neg (mt mem_pairs_iff.mpr hp)]

end One

/-! ## One request after another -/

section Two

variable (h₁ : op₁.AsksKept e.config s₁ r₁) (hdisjoint : Disjoint (e.pairs s₁ r₁) (e.pairs s₂ r₂))
include h₁ hdisjoint

/-- A state that the second request looks at is not changed by the first. -/
theorem effectiveState_step_of_disjoint (hn : n ∈ e.touched r₂) :
    (e.step ⟨now, op₁⟩).store.effectiveState s₂ n = e.store.effectiveState s₂ n :=
  effectiveState_step_of_not_mem_pairs h₁ fun hmem =>
    Set.disjoint_left.mp hdisjoint hmem (mem_pairs_iff.mpr ⟨rfl, hn⟩)

theorem chosen?_step : (e.step ⟨now, op₁⟩).chosen? s₂ r₂ = e.chosen? s₂ r₂ := by
  refine chosen?_congr (congrArg EngineConfig.selection (step_config e _)) (registry_step h₁) fun n hn => ?_
  rw [touched_step h₁] at hn
  exact effectiveState_step_of_disjoint h₁ hdisjoint hn

theorem stateAfter_step (hn : n ∈ e.touched r₂) :
    (e.step ⟨now, op₁⟩).stateAfter s₂ r₂ n = e.stateAfter s₂ r₂ n :=
  stateAfter_congr (move?_congr (chosen?_step h₁ hdisjoint)) (effectiveState_step_of_disjoint h₁ hdisjoint hn)

variable (h₂ : op₂.AsksKept e.config s₂ r₂)
include h₂

theorem answer_step (a b : Instant) : (e.step ⟨now, op₁⟩).answer ⟨a, op₂⟩ = e.answer ⟨b, op₂⟩ := by
  refine (perform_fst_congr h₂.asks (step_config e _).symm ?_).symm
  rw [matchIn_fst, matchIn_fst, chosen?_step h₁ hdisjoint]

theorem peek_step_step (t : SessionId) (n : String) : ((e.step ⟨now, op₁⟩).step ⟨now', op₂⟩).store.peek t n =
    if t = s₂ ∧ n ∈ e.touched r₂ then some (e.stateAfter s₂ r₂ n)
    else if t = s₁ ∧ n ∈ e.touched r₁ then some (e.stateAfter s₁ r₁ n) else e.store.peek t n := by
  rw [peek_step (asksKept_step h₂ _), touched_step h₁, peek_step h₁]
  by_cases hn : t = s₂ ∧ n ∈ e.touched r₂
  · rw [if_pos hn, if_pos hn, stateAfter_step h₁ hdisjoint hn.2]
  · rw [if_neg hn, if_neg hn]

theorem stats_step_step : ((e.step ⟨now, op₁⟩).step ⟨now', op₂⟩).stats =
    { served := e.stats.served + (if (e.chosen? s₁ r₁).isSome then 1 else 0) +
        if (e.chosen? s₂ r₂).isSome then 1 else 0
      unmatched := e.stats.unmatched + (if (e.chosen? s₁ r₁).isSome then 0 else 1) +
        if (e.chosen? s₂ r₂).isSome then 0 else 1
      malformed := e.stats.malformed + malformedCount e.registry r₁ + malformedCount e.registry r₂
      transitions := e.stats.transitions + (if (e.move? s₁ r₁).isSome then 1 else 0) +
        if (e.move? s₂ r₂).isSome then 1 else 0
      minted := e.stats.minted } := by
  have hchosen : (e.step ⟨now, op₁⟩).chosen? s₂ r₂ = e.chosen? s₂ r₂ := chosen?_step h₁ hdisjoint
  rw [stats_step (asksKept_step h₂ _)]
  unfold statsAfter
  rw [hchosen, move?_congr hchosen, stats_step h₁, registry_step h₁]
  rfl

omit hdisjoint in
theorem stamp_step_step (t : SessionId) : ((e.step ⟨now, op₁⟩).step ⟨now', op₂⟩).store.stamp t =
    Store.restamp s₂ op₂.presents now' (e.touched r₂) t
      (Store.restamp s₁ op₁.presents now (e.touched r₁) t (e.store.stamp t)) := by
  rw [stamp_step (asksKept_step h₂ _), touched_step h₁, stamp_step h₁]

/-! ## Either order -/

theorem alikeButClock_step_comm (a₁ a₂ b₁ b₂ : Instant) :
    ((e.step ⟨a₁, op₁⟩).step ⟨a₂, op₂⟩).AlikeButClock ((e.step ⟨b₂, op₂⟩).step ⟨b₁, op₁⟩) where
  config := by simp only [step_config]
  registry := by
    rw [registry_step (asksKept_step h₂ _), registry_step h₁, registry_step (asksKept_step h₁ _), registry_step h₂]
  stats := by
    rw [stats_step_step h₁ hdisjoint h₂, stats_step_step h₂ hdisjoint.symm h₁]
    simp only [Nat.add_right_comm]
  states t n := by
    rw [peek_step_step h₁ hdisjoint h₂, peek_step_step h₂ hdisjoint.symm h₁]
    by_cases hn₁ : t = s₁ ∧ n ∈ e.touched r₁
    · have hn₂ : ¬(t = s₂ ∧ n ∈ e.touched r₂) := fun hn₂ =>
        Set.disjoint_left.mp hdisjoint (mem_pairs_iff.mpr hn₁) (mem_pairs_iff.mpr hn₂)
      simp only [if_pos hn₁, if_neg hn₂]
    · simp only [if_neg hn₁]
  marks t := by
    rw [stamp_step_step h₁ h₂, stamp_step_step h₂ h₁]
    -- At the readings of the second order the first order gives the same marks, and there the order does not matter.
    refine (Store.restamp_mark a₂ b₁ (Store.restamp_mark a₁ b₁ rfl)).trans ?_
    rw [Store.restamp_comm]
    exact Store.restamp_mark b₁ b₁ (Store.restamp_mark b₁ b₂ rfl)

theorem step_comm (now : Instant) :
    (e.step ⟨now, op₁⟩).step ⟨now, op₂⟩ = (e.step ⟨now, op₂⟩).step ⟨now, op₁⟩ := by
  refine (alikeButClock_step_comm h₁ hdisjoint h₂ now now now now).eq fun t => ?_
  rw [stamp_step_step h₁ h₂, stamp_step_step h₂ h₁, Store.restamp_comm]

end Two

/-- **Requests without a common pair commute.** Let two requests each present a session or be given one, and let no pair
of a session and a scenario be among those of both. Whichever is answered first, each gets the same answer. Both orders
end with the same mappings, counters, sessions, states and marks, whatever the clock reads, and in the same engine if
the clock stands still. -/
theorem requests_commute (e : Engine) {op₁ op₂ : Operation} {s₁ s₂ : SessionId} {r₁ r₂ : Request}
    (h₁ : op₁.AsksKept e.config s₁ r₁) (h₂ : op₂.AsksKept e.config s₂ r₂)
    (hdisjoint : Disjoint (e.pairs s₁ r₁) (e.pairs s₂ r₂)) (a₁ a₂ b₁ b₂ : Instant) :
    (e.step ⟨b₂, op₂⟩).answer ⟨b₁, op₁⟩ = e.answer ⟨a₁, op₁⟩ ∧
      (e.step ⟨a₁, op₁⟩).answer ⟨a₂, op₂⟩ = e.answer ⟨b₂, op₂⟩ ∧
      ((e.step ⟨a₁, op₁⟩).step ⟨a₂, op₂⟩).AlikeButClock ((e.step ⟨b₂, op₂⟩).step ⟨b₁, op₁⟩) ∧
      (e.step ⟨a₁, op₁⟩).step ⟨a₁, op₂⟩ = (e.step ⟨a₁, op₂⟩).step ⟨a₁, op₁⟩ :=
  ⟨answer_step h₂ hdisjoint.symm h₁ b₁ a₁, answer_step h₁ hdisjoint h₂ a₂ b₂,
    alikeButClock_step_comm h₁ hdisjoint h₂ a₁ a₂ b₁ b₂, step_comm h₁ hdisjoint h₂ a₁⟩

/-- A session was minted; its client presents it for one scenario while a request is matched in it for another. -/
theorem requests_commute_in_minted :
    let s : SessionId := ⟨"m", by decide⟩
    let first : StubMapping := ⟨⟨1⟩, 5, .custom fun r => .ok (r.url == "/a"), some ⟨"A", some "Started", some "Seen"⟩,
      .ofStatus 201⟩
    let second : StubMapping := ⟨⟨2⟩, 5, .custom fun r => .ok (r.url == "/b"), some ⟨"B", none, some "Seen"⟩,
      .ofStatus 202⟩
    let e₀ := ((Engine.new (EngineConfig.withSignalNames {} "S" "C")).register first).register second
    let e := (e₀.serve ⟨0⟩ s (Request.new "GET" "/a")).2
    let r₁ := (Request.new "GET" "/a").withHeader "S" "m"
    let r₂ := Request.new "GET" "/b"
    let op₁ : Operation := .serve ⟨"n", by decide⟩ r₁
    let op₂ : Operation := .matchIn s r₂
    e.store.isMinted s = true ∧
      (e.step ⟨⟨4⟩, op₂⟩).answer ⟨⟨5⟩, op₁⟩ = e.answer ⟨⟨1⟩, op₁⟩ ∧
      (e.step ⟨⟨1⟩, op₁⟩).answer ⟨⟨2⟩, op₂⟩ = e.answer ⟨⟨4⟩, op₂⟩ ∧
      ((e.step ⟨⟨1⟩, op₁⟩).step ⟨⟨2⟩, op₂⟩).AlikeButClock ((e.step ⟨⟨4⟩, op₂⟩).step ⟨⟨5⟩, op₁⟩) ∧
      (e.step ⟨⟨1⟩, op₁⟩).step ⟨⟨1⟩, op₂⟩ = (e.step ⟨⟨1⟩, op₂⟩).step ⟨⟨1⟩, op₁⟩ := by
  intro s first second e₀ e r₁ r₂ op₁ op₂
  have h₁ : op₁.AsksKept e.config s r₁ := ⟨.of_id (by decide +kernel), by decide +kernel⟩
  have h₂ : op₂.AsksKept e.config s r₂ := ⟨.matchIn _ _, rfl⟩
  have hA : e.touched r₁ = ["A"] := by decide
  have hB : e.touched r₂ = ["B"] := by decide
  have hdisjoint : Disjoint (e.pairs s r₁) (e.pairs s r₂) := by
    refine Set.disjoint_left.mpr fun p hp hp' => ?_
    have hn := (mem_pairs_iff.mp hp).2
    have hn' := (mem_pairs_iff.mp hp').2
    rw [hA, List.mem_singleton] at hn
    rw [hB, hn] at hn'
    exact absurd hn' (by decide)
  exact ⟨by decide, requests_commute e h₁ h₂ hdisjoint ⟨1⟩ ⟨2⟩ ⟨5⟩ ⟨4⟩⟩

end Engine

end ScenarioStubs
