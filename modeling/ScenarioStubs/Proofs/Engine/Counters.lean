import Mathlib.Algebra.GroupWithZero.Nat
import ScenarioStubs.Proofs.Engine.Asking

/-!
# What the counters count

Only a call that asks counts anything (`stats_step_of_not_asked`). It counts one request as served or unmatched, one
transition if the mapping that answers declares a new state, one mint if its session was minted, and every registered
mapping whose predicate gives no verdict on the request (`stats_step_of_asks`). A counter that each call raises by some
number is, after a run, what it was before and the sum of these numbers (`counter_after`), so for a new engine the
counters tell how many calls of the run were of which kind: `counters_tell_calls`.
-/

namespace ScenarioStubs

/-- The session and the request that an operation asks for, if it asks. -/
def Operation.asked? (c : EngineConfig) : Operation → Option (SessionId × Request)
  | .serve fresh r => some ((c.sessions.resolver.resolve fresh r.headers r.cookies).id, r)
  | .matchIn s r => some (s, r)
  | _ => none

theorem Operation.asked?_eq_some_iff {c : EngineConfig} {op : Operation} {s : SessionId} {r : Request} :
    op.asked? c = some (s, r) ↔ op.Asks c s r := by
  constructor
  · intro h
    cases op <;> cases h
    · exact .serve _ _
    · exact .matchIn _ _
  · intro h
    cases h <;> rfl

/-- Whether an answer comes with a session that was minted for it. -/
def Answer.isEphemeral : Answer → Bool
  | .served event => event.session.isEphemeral
  | _ => false

namespace Engine

/-- The session and the request that a call asks for, if it asks. -/
def asked? (e : Engine) (c : Call) : Option (SessionId × Request) := c.operation.asked? e.config

/-- The number of registered mappings whose predicates give no verdict on what a call asks for. -/
def undecided (e : Engine) (c : Call) : Nat :=
  (e.asked? c).elim 0 fun (_, r) => e.registry.mappings.countP (·.isMalformedFor r)

/-- The call is answered by a mapping that declares a new state, be it the state that its scenario is in already. -/
def Advances (e : Engine) (c : Call) : Prop :=
  ∃ s m rule next, e.Serves c s m ∧ m.scenario = some rule ∧ rule.newState = some next

/-- The calls of a run, each with the engine that performs it. -/
def points : Engine → List Call → List (Engine × Call)
  | _, [] => []
  | e, c :: rest => (e, c) :: (e.step c).points rest

variable {e : Engine} {c : Call} {s : SessionId} {r : Request}

/-! ## Calls that declare a new state -/

theorem advances_iff (h : c.operation.Asks e.config s r) : e.Advances c ↔ (e.move? s r).isSome = true := by
  rw [Option.isSome_iff_exists]
  constructor
  · rintro ⟨s', m, rule, next, ⟨r', i, h', hbest⟩, hs, hn⟩
    obtain ⟨rfl, rfl⟩ := h.unique h'
    exact ⟨(rule.name, next), move?_eq_some_iff.mpr ⟨i, m, rule, hbest, hs, rfl, hn⟩⟩
  · rintro ⟨⟨n, v⟩, hmove⟩
    obtain ⟨i, m, rule, hbest, hs, -, hv⟩ := move?_eq_some_iff.mp hmove
    exact ⟨s, m, rule, v, ⟨r, i, h, hbest⟩, hs, hv⟩

theorem not_advances (h : e.asked? c = none) : ¬e.Advances c := by
  rintro ⟨s, m, rule, next, ⟨r, i, hasks, -⟩, -⟩
  cases h.symm.trans (Operation.asked?_eq_some_iff.mpr hasks)

instance Advances.decidable (e : Engine) (c : Call) : Decidable (e.Advances c) :=
  match h : e.asked? c with
  | some (_, _) => decidable_of_iff _ (advances_iff (Operation.asked?_eq_some_iff.mp h)).symm
  | none => .isFalse (not_advances h)

/-- A call that is answered by a mapping has that mapping's stub in its answer. -/
theorem Advances.isSome_stub? (h : e.Advances c) : (e.answer c).stub?.isSome = true := by
  obtain ⟨s, m, rule, next, hserves, -⟩ := h
  obtain ⟨r, i, hasks, hbest⟩ := hserves
  exact Option.isSome_of_eq_some ((stub?_answer_iff hasks).mpr ⟨m, ⟨r, i, hasks, hbest⟩, rfl⟩)

/-! ## One call -/

theorem stats_recordMinted (e : Engine) (now : Instant) (s : SessionId) :
    (e.recordMinted now s).stats = { e.stats with minted := e.stats.minted + 1 } := by
  unfold recordMinted
  dsimp only
  split
  · rw [evictExpired_snd]
  · rfl

/-- A call that asks counts what its match counts, and a mint if its session was minted. -/
theorem stats_step_of_asks (h : c.operation.Asks e.config s r) : (e.step c).stats =
    { e.statsAfter s r with minted := e.stats.minted + if (e.answer c).isEphemeral then 1 else 0 } := by
  obtain ⟨now, op⟩ := c
  cases h with
  | serve fresh r =>
    show (e.serve now fresh r).2.stats = { e.statsAfter (e.resolveSession fresh r).id r with
      minted := e.stats.minted + if (e.resolveSession fresh r).isEphemeral then 1 else 0 }
    rw [serve_eq]
    dsimp only
    rw [matchIn_eq]
    cases (e.resolveSession fresh r).isEphemeral with
    | true => exact stats_recordMinted _ _ _
    | false => rfl
  | matchIn s r => exact congrArg (·.2.stats) (matchIn_eq e now s r)

/-- A call that does not ask counts nothing, and its answer serves no stub and comes with no session. -/
theorem quiet_of_not_asked (h : e.asked? c = none) :
    (e.step c).stats = e.stats ∧ (e.answer c).stub? = none ∧ (e.answer c).isEphemeral = false := by
  obtain ⟨now, op⟩ := c
  show (e.perform now op).2.stats = e.stats ∧ (e.perform now op).1.stub? = none ∧
    (e.perform now op).1.isEphemeral = false
  cases op with
  | serve | matchIn => cases h
  | setScenarioState s name state =>
    rw [perform_setScenarioState]
    split <;> exact ⟨rfl, rfl, rfl⟩
  | resetScenario s name =>
    rw [perform_resetScenario, perform_setScenarioState]
    split <;> exact ⟨rfl, rfl, rfl⟩
  | registerDefinition fresh d =>
    rw [perform_registerDefinition]
    split <;> exact ⟨rfl, rfl, rfl⟩
  | replaceStub id m =>
    rw [perform_replaceStub]
    split <;> exact ⟨rfl, rfl, rfl⟩
  | removeStub id =>
    rw [perform_removeStub]
    split <;> exact ⟨rfl, rfl, rfl⟩
  | evictExpired reading => exact ⟨congrArg (·.stats) (evictExpired_snd e reading), rfl, rfl⟩
  | resetSession | scenarios | register | clearStubs | resetScenarios | reset | evictIdle => exact ⟨rfl, rfl, rfl⟩

theorem stats_step_of_not_asked (h : e.asked? c = none) : (e.step c).stats = e.stats := (quiet_of_not_asked h).1

/-- The stub in the answer to a call that asks is that of the candidate that was chosen. -/
theorem isSome_stub?_answer (h : c.operation.Asks e.config s r) :
    (e.answer c).stub?.isSome = (e.chosen? s r).isSome := by
  unfold answer
  rw [stub?_perform h, matchIn_fst, Option.isSome_map]

/-! ## The counters one by one -/

/-- A call either asks for one request in one session, or for nothing. -/
theorem asks_or_not_asked (e : Engine) (c : Call) :
    (∃ s r, e.asked? c = some (s, r) ∧ c.operation.Asks e.config s r) ∨ e.asked? c = none := by
  cases h : e.asked? c with
  | none => exact .inr rfl
  | some p => exact .inl ⟨p.1, p.2, rfl, Operation.asked?_eq_some_iff.mp h⟩

variable (e c)

theorem served_step : (e.step c).stats.served = e.stats.served + if (e.answer c).stub?.isSome then 1 else 0 := by
  obtain ⟨s, r, -, hasks⟩ | hnone := asks_or_not_asked e c
  · rw [stats_step_of_asks hasks, isSome_stub?_answer hasks]
    rfl
  · obtain ⟨hstats, hstub, -⟩ := quiet_of_not_asked hnone
    rw [hstats, hstub]
    rfl

theorem requests_step : (e.step c).stats.served + (e.step c).stats.unmatched =
    e.stats.served + e.stats.unmatched + if (e.asked? c).isSome then 1 else 0 := by
  obtain ⟨s, r, hasked, hasks⟩ | hnone := asks_or_not_asked e c
  · rw [stats_step_of_asks hasks, hasked]
    simp only [statsAfter, Option.isSome_some, if_true]
    split <;> omega
  · rw [stats_step_of_not_asked hnone, hnone]
    rfl

theorem transitions_step :
    (e.step c).stats.transitions = e.stats.transitions + if decide (e.Advances c) then 1 else 0 := by
  obtain ⟨s, r, -, hasks⟩ | hnone := asks_or_not_asked e c
  · rw [stats_step_of_asks hasks]
    simp only [statsAfter, advances_iff hasks, Bool.decide_eq_true]
  · rw [stats_step_of_not_asked hnone, decide_eq_false (not_advances hnone)]
    rfl

theorem malformed_step : (e.step c).stats.malformed = e.stats.malformed + e.undecided c := by
  unfold undecided
  obtain ⟨s, r, hasked, hasks⟩ | hnone := asks_or_not_asked e c
  · rw [stats_step_of_asks hasks, hasked]
    rfl
  · rw [stats_step_of_not_asked hnone, hnone]
    rfl

theorem mints_step : (e.step c).stats.minted = e.stats.minted + if (e.answer c).isEphemeral then 1 else 0 := by
  obtain ⟨s, r, -, hasks⟩ | hnone := asks_or_not_asked e c
  · rw [stats_step_of_asks hasks]
  · obtain ⟨hstats, -, hsession⟩ := quiet_of_not_asked hnone
    rw [hstats, hsession]
    rfl

theorem isSome_minted? :
    (c.operation.minted? e.config).isSome = (e.answer c).isEphemeral := by
  obtain ⟨now, op⟩ := c
  cases op with
  | serve fresh r =>
    show (if (e.resolveSession fresh r).isEphemeral then some _ else none : Option SessionId).isSome =
      (e.resolveSession fresh r).isEphemeral
    cases (e.resolveSession fresh r).isEphemeral <;> rfl
  | matchIn => rfl
  | setScenarioState | resetScenario | resetSession | scenarios | register | registerDefinition | replaceStub
    | removeStub | clearStubs | resetScenarios | reset | evictExpired | evictIdle =>
    exact (quiet_of_not_asked rfl).2.2.symm

/-- A call counts a mint exactly if it mints a session. -/
theorem minted_step :
    (e.step c).stats.minted = e.stats.minted + if (c.operation.minted? e.config).isSome then 1 else 0 := by
  rw [mints_step, isSome_minted?]

/-! ## Runs -/

/-- A number that each call raises is, after a run, what it was before and the sum of what the calls added. -/
theorem counter_after {f : Engine → Nat} {g : Engine → Call → Nat} (hstep : ∀ e c, f (e.step c) = f e + g e c)
    (calls : List Call) : f (e.after calls) = f e + ((e.points calls).map fun p => g p.1 p.2).sum := by
  -- The engine is left open, since the rest of a run starts from the engine after its first call.
  induction calls generalizing e with
  | nil => rfl
  | cons c rest ih =>
    calc f ((e.step c).after rest)
        = f (e.step c) + (((e.step c).points rest).map fun p => g p.1 p.2).sum := ih (e.step c)
      _ = f e + g e c + (((e.step c).points rest).map fun p => g p.1 p.2).sum := by rw [hstep]
      _ = f e + ((e.points (c :: rest)).map fun p => g p.1 p.2).sum := by
          rw [points, List.map_cons, List.sum_cons, Nat.add_assoc]

/-- A number that a call raises by one if it satisfies a condition counts the calls of a run that do. -/
theorem count_after {f : Engine → Nat} {p : Engine → Call → Bool}
    (hstep : ∀ e c, f (e.step c) = f e + if p e c then 1 else 0) (calls : List Call) :
    f (e.after calls) = f e + (e.points calls).countP fun q => p q.1 q.2 := by
  rw [counter_after e hstep]
  congr 1
  induction e.points calls with
  | nil => rfl
  | cons q rest ih =>
    rw [List.map_cons, List.sum_cons, ih, List.countP_cons, Nat.add_comm]

/-- **The counters tell the calls.** After a run of a new engine, the requests counted as served or unmatched are the
calls that asked; those counted as served are the ones that were answered with a stub; the transitions are the calls
that a mapping with a new state answered, so they are never more than the served ones; the malformed mappings are, over
all calls that asked, the mappings registered at the time that gave no verdict; and the minted sessions are the answers
that came with one. What does not ask changes no counter. -/
theorem counters_tell_calls (config : EngineConfig) (calls : List Call) :
    let points := (new config).points calls
    let stats := ((new config).after calls).stats
    stats.served + stats.unmatched = points.countP (fun p => (p.1.asked? p.2).isSome) ∧
      stats.served = points.countP (fun p => (p.1.answer p.2).stub?.isSome) ∧
      stats.transitions = points.countP (fun p => p.1.Advances p.2) ∧
      stats.transitions ≤ stats.served ∧
      stats.malformed = (points.map fun p => p.1.undecided p.2).sum ∧
      stats.minted = points.countP (fun p => (p.1.answer p.2).isEphemeral) ∧
      ∀ (e : Engine) (c : Call), e.asked? c = none → (e.step c).stats = e.stats := by
  intro points stats
  have hrequests := count_after (f := fun e => e.stats.served + e.stats.unmatched) (new config) requests_step calls
  have hserved := count_after (f := (·.stats.served)) (new config) served_step calls
  have htransitions := count_after (f := (·.stats.transitions)) (new config) transitions_step calls
  have hmalformed := counter_after (f := (·.stats.malformed)) (new config) malformed_step calls
  have hminted := count_after (f := (·.stats.minted)) (new config) mints_step calls
  simp only [new, Nat.zero_add] at hrequests hserved htransitions hmalformed hminted
  refine ⟨hrequests, hserved, htransitions, ?_, hmalformed, hminted, fun e c => stats_step_of_not_asked⟩
  calc stats.transitions
      = points.countP (fun p => p.1.Advances p.2) := htransitions
    _ ≤ points.countP (fun p => (p.1.answer p.2).stub?.isSome) :=
        List.countP_mono_left fun _ _ h => (of_decide_eq_true h).isSome_stub?
    _ = stats.served := hserved.symm

end Engine
end ScenarioStubs
