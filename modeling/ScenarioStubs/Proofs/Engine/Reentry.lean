import ScenarioStubs.Proofs.Engine.States

/-!
# States that were left

While no registered mapping moves a scenario to a state, no one puts the pair of a session and that scenario into a
state, and the entry of the session is not dropped (`Engine.NoReentry`), the pair does not come back to the state once
it is in another:

- after the match of a call the pair is in its old state or in one that some mapping moves it to
  (`effectiveState_matched_ne`), and nothing else that the call does touches it (`effectiveState_step`);
- hence no call brings the pair back to the state (`effectiveState_step_ne`), and no run does;
- a mapping that requires the state serves only in it (`Serves.effectiveState_of_requires`), and one that also moves
  the scenario elsewhere ends it (`Serves.effectiveState_matched`).

Together: `left_state_not_served_again`. Which mapping serves a call can be told from the answer (`stub?_answer_iff`).
-/

namespace ScenarioStubs

namespace StubMapping

/-- The mapping is bound to the scenario `n` and requires it to be in the state `x`. -/
def Requires (m : StubMapping) (n x : String) : Prop :=
  ∃ rule, m.scenario = some rule ∧ rule.name = n ∧ rule.requiredState = some x

/-- The mapping serves only while the scenario `n` is in the state `x`, and takes it out of that state. -/
def Leaves (m : StubMapping) (n x : String) : Prop := m.Requires n x ∧ ∃ y, m.move? = some (n, y) ∧ y ≠ x

end StubMapping

namespace Engine

/-- The call drops the entry of the session, be it from before the call or made by its match. -/
def Drops (e : Engine) (c : Call) (s : SessionId) : Prop :=
  (e.matched c.now c.operation).store.sessions[s]?.isSome = true ∧ (e.step c).store.sessions[s]? = none

/-- Nothing lets the scenario `n` of the session `s` enter the state `x` by the call. -/
structure NoReentry (s : SessionId) (n x : String) (e : Engine) (c : Call) : Prop where
  /-- No registered mapping has `x` as its new state of `n`. -/
  not_moved : ∀ m ∈ e.registry.mappings, m.move? ≠ some (n, x)
  /-- The call does not put the pair into a state, unless it is refused because no mapping is bound to the scenario. -/
  not_forced : c.operation.Forces s n → e.registry.knowsScenario n = false
  not_dropped : ¬e.Drops c s

instance NoReentry.decidable (s : SessionId) (n x : String) (e : Engine) (c : Call) :
    Decidable (e.NoReentry s n x c) :=
  have : Decidable (e.Drops c s) := inferInstanceAs (Decidable (_ ∧ _))
  decidable_of_iff ((∀ m ∈ e.registry.mappings, m.move? ≠ some (n, x)) ∧
      (c.operation.Forces s n → e.registry.knowsScenario n = false) ∧ ¬e.Drops c s)
    ⟨fun ⟨hmoved, hforced, hdropped⟩ => ⟨hmoved, hforced, hdropped⟩,
      fun h => ⟨h.not_moved, h.not_forced, h.not_dropped⟩⟩

/-- The call at place `i` of a run is answered in the session `s` by the mapping `m`. -/
def ServedAt (e : Engine) (calls : List Call) (i : Nat) (s : SessionId) (m : StubMapping) : Prop :=
  ∃ c, calls[i]? = some c ∧ (e.after (calls.take i)).Serves c s m

variable {e : Engine} {c : Call} {s : SessionId} {n x y : String} {m : StubMapping}

/-! ## After the match -/

/-- A call that neither puts a pair into a state nor drops the entry of its session leaves the pair as the match of its
request did. -/
theorem NoReentry.effectiveState_step (h : e.NoReentry s n x c) :
    (e.step c).store.effectiveState s n = (e.matched c.now c.operation).store.effectiveState s n := by
  obtain hgone | hsame := peek_step_of_not_forced h.not_forced
  · -- Nothing was dropped, so the match left no entry either, and the pair was in the start state already.
    have hmatched : (e.matched c.now c.operation).store.sessions[s]? = none := by
      rw [← Option.not_isSome_iff_eq_none]
      exact fun hsome => h.not_dropped ⟨hsome, hgone⟩
    exact Store.effectiveState_congr s (hgone.trans hmatched.symm) n
  · exact congrArg (·.getD startState) hsame

/-! ## Leaving for good -/

/-- A request leaves the scenario in the state it is in, or moves it to a state that some mapping moves it to. -/
theorem stateAfter_ne {t : SessionId} {r : Request} (hmoves : ∀ m ∈ e.registry.mappings, m.move? ≠ some (n, x))
    (hleft : e.store.effectiveState t n ≠ x) : e.stateAfter t r n ≠ x := by
  by_cases h : ∃ v, e.Moves t r n v
  · obtain ⟨v, hv⟩ := h
    rw [stateAfter_of_moves hv]
    rintro rfl
    obtain ⟨i, m, rule, hbest, hrule⟩ := hv
    exact hmoves m (List.mem_of_getElem? hbest.registered) (StubMapping.move?_eq_some_iff.mpr ⟨rule, hrule⟩)
  · rwa [stateAfter_of_not_moves h]

theorem effectiveState_matched_ne {now : Instant} {op : Operation}
    (hmoves : ∀ m ∈ e.registry.mappings, m.move? ≠ some (n, x)) (hleft : e.store.effectiveState s n ≠ x) :
    (e.matched now op).store.effectiveState s n ≠ x := by
  have hstore : ∀ t r, (e.storeAfter now t r).effectiveState s n ≠ x := fun t r => by
    rw [effectiveState_storeAfter]
    split
    case isTrue hst =>
      subst hst
      exact stateAfter_ne hmoves hleft
    case isFalse => exact hleft
  cases op with
  | serve fresh r =>
    rw [matched_of_asks (.serve fresh r)]
    exact hstore _ r
  | matchIn t r =>
    rw [matched_of_asks (.matchIn t r)]
    exact hstore t r
  | _ => exact hleft

/-- A call does not bring a pair back to a state that it is not in. -/
theorem effectiveState_step_ne (h : e.NoReentry s n x c) (hleft : e.store.effectiveState s n ≠ x) :
    (e.step c).store.effectiveState s n ≠ x := by
  rw [h.effectiveState_step]
  exact effectiveState_matched_ne h.not_moved hleft

/-! ## Serving -/

/-- A mapping that requires a state serves only in that state. -/
theorem Serves.effectiveState_of_requires (h : e.Serves c s m) (hrequires : m.Requires n x) :
    e.store.effectiveState s n = x := by
  obtain ⟨r, i, -, hbest⟩ := h
  obtain ⟨rule, hrule, rfl, hrequired⟩ := hrequires
  exact hbest.eligible.2 rule hrule x hrequired

/-- After the match the scenario is in the state that the serving mapping moves it to. -/
theorem Serves.effectiveState_matched (h : e.Serves c s m) (hmove : m.move? = some (n, y)) :
    (e.matched c.now c.operation).store.effectiveState s n = y := by
  have ⟨r, _, hasks, _⟩ := h
  rw [matched_of_asks hasks, effectiveState_storeAfter, if_pos rfl]
  exact stateAfter_of_moves (h.moves hasks hmove)

/-! ## Runs -/

section Run

variable {calls : List Call} {i j : Nat} {m' : StubMapping} (h : e.Throughout (NoReentry s n x) calls)
include h

/-- Once the pair has left the state, no mapping that requires the state serves. -/
theorem not_servedAt_of_left (hij : i ≤ j) (hleft : (e.after (calls.take i)).store.effectiveState s n ≠ x)
    (hrequires : m.Requires n x) : ¬e.ServedAt calls j s m := by
  rintro ⟨c, -, hserves⟩
  have hstill : (e.after (calls.take j)).store.effectiveState s n ≠ x :=
    h.preserves (fun e => e.store.effectiveState s n ≠ x) (fun _ _ => effectiveState_step_ne) hij hleft
  exact hstill (hserves.effectiveState_of_requires hrequires)

/-- When a mapping has taken the pair out of the state, no mapping that requires the state serves later. -/
theorem ServedAt.not_servedAt (hserved : e.ServedAt calls i s m) (hleaves : m.Leaves n x) (hij : i < j)
    (hrequires : m'.Requires n x) : ¬e.ServedAt calls j s m' := by
  obtain ⟨c, hc, hserves⟩ := hserved
  obtain ⟨-, y, hmove, hy⟩ := hleaves
  refine not_servedAt_of_left h hij ?_ hrequires
  rw [after_take_succ e hc, (h i c hc).effectiveState_step, hserves.effectiveState_matched hmove]
  exact hy

end Run

/-- **A state that was left is not served again.** Take a run along which no registered mapping moves the scenario `n`
to the state `x`, the pair of `s` and `n` is not put into a state, and the entry of `s` is not dropped. From the point
where the pair is in a state other than `x`, no mapping that requires `x` of `n` serves in `s`. So at most one call is
answered in `s` by a mapping that requires `x` and moves `n` to another state, and by one mapping only. -/
theorem left_state_not_served_again (e : Engine) (s : SessionId) (n x : String) (calls : List Call)
    (h : e.Throughout (NoReentry s n x) calls) :
    (∀ i j m, i ≤ j → (e.after (calls.take i)).store.effectiveState s n ≠ x → m.Requires n x →
        ¬e.ServedAt calls j s m) ∧
      ∀ i j m m', m.Leaves n x → m'.Leaves n x → e.ServedAt calls i s m → e.ServedAt calls j s m' →
        i = j ∧ m = m' := by
  refine ⟨fun i j m hij hleft hrequires => not_servedAt_of_left h hij hleft hrequires,
    fun i j m m' hm hm' hserved hserved' => ?_⟩
  have hij : i = j := by
    obtain hlt | heq | hgt := Nat.lt_trichotomy i j
    · exact absurd hserved' (hserved.not_servedAt h hm hlt hm'.1)
    · exact heq
    · exact absurd hserved (hserved'.not_servedAt h hm' hgt hm.1)
  subst hij
  obtain ⟨c, hc, hserves⟩ := hserved
  obtain ⟨c', hc', hserves'⟩ := hserved'
  cases hc.symm.trans hc'
  exact ⟨rfl, hserves.unique hserves'⟩

/-- In session `a` an order is placed, paid, refunded and paid again. Meanwhile `b` starts anew, a mapping is registered
that answers first whoever has not placed an order, and a sweep finds nothing to drop. -/
theorem left_state_not_served_again_to_a :
    let a : SessionId := ⟨"a", by decide⟩
    let b : SessionId := ⟨"b", by decide⟩
    let place : StubMapping := ⟨⟨1⟩, 5, .always, some ⟨"order", some "Started", some "placed"⟩, .ofStatus 201⟩
    let pay : StubMapping := ⟨⟨2⟩, 5, .always, some ⟨"order", some "placed", some "paid"⟩, .ofStatus 202⟩
    let refund : StubMapping := ⟨⟨3⟩, 5, .always, some ⟨"order", some "paid", some "placed"⟩, .ofStatus 203⟩
    let again : StubMapping := ⟨⟨4⟩, 1, .always, some ⟨"order", some "Started", none⟩, .ofStatus 204⟩
    let r := Request.new "GET" "/"
    let e := (((Engine.new {}).register place).register pay).register refund
    let calls : List Call := [⟨⟨0⟩, .matchIn a r⟩, ⟨⟨1⟩, .matchIn b r⟩, ⟨⟨2⟩, .register again⟩, ⟨⟨3⟩, .matchIn a r⟩,
      ⟨⟨4⟩, .resetScenario b "order"⟩, ⟨⟨5⟩, .matchIn a r⟩, ⟨⟨6⟩, .evictExpired ⟨7⟩⟩, ⟨⟨8⟩, .matchIn a r⟩]
    e.Throughout (NoReentry a "order" "Started") calls ∧
      (e.after (calls.take 1)).store.effectiveState a "order" = "placed" ∧
      (∀ j, 1 ≤ j → ¬e.ServedAt calls j a again) ∧ ∀ j, e.ServedAt calls j a place ↔ j = 0 := by
  intro a b place pay refund again r e calls
  have h : e.Throughout (NoReentry a "order" "Started") calls := by decide +kernel
  have hplaced : (e.after (calls.take 1)).store.effectiveState a "order" = "placed" := by decide
  have hleft : (e.after (calls.take 1)).store.effectiveState a "order" ≠ "Started" := by
    rw [hplaced]
    decide
  have hserved : e.ServedAt calls 0 a place := ⟨_, rfl, r, 0, .matchIn a r, isBest_of_chosen? (c := ⟨0, place⟩) rfl⟩
  have hleaves : place.Leaves "order" "Started" := ⟨⟨_, rfl, rfl, rfl⟩, "placed", rfl, by decide⟩
  obtain ⟨hnever, honce⟩ := left_state_not_served_again e a "order" "Started" calls h
  refine ⟨h, hplaced, fun j hj => hnever 1 j again hj hleft ⟨_, rfl, rfl, rfl⟩, fun j => ⟨fun hj => ?_, ?_⟩⟩
  · exact (honce j 0 place place hleaves hleaves hj hserved).1
  · rintro rfl
    exact hserved

end Engine

end ScenarioStubs
