import ScenarioStubs.Proofs.Engine.Operation
import ScenarioStubs.Proofs.Stub.Registry

/-!
# The scenarios as a session is shown them

The summaries that a session is shown are made of the mappings and of what is stored for the session
(`Engine.scenarios_eq`). Putting a scenario of a session into a state changes one of them, for that session alone
(`scenarios_setState`), and a scenario can be put into a state exactly if it is among them (`putsListed_set`).

Together: `summaries_agree_with_control`.
-/

namespace ScenarioStubs

/-- The summary after its scenario was put into a state, if it is the summary of that scenario. -/
def ScenarioSummary.put (n v : String) (x : ScenarioSummary) : ScenarioSummary :=
  if x.name = n then { x with state := v } else x

namespace Engine

/-- What comes of the attempt to put a scenario of a session into a state. -/
structure PutsListed (e : Engine) (s : SessionId) (n v : String) (outcome : Answer × Engine) : Prop where
  /-- If the scenario is listed, its summary shows the state to that session; all other summaries are as before. -/
  listed : n ∈ e.registry.scenarioNames → outcome.1 = .done ∧
    outcome.2.scenarios s = (e.scenarios s).map (·.put n v) ∧ ∀ t, t ≠ s → outcome.2.scenarios t = e.scenarios t
  /-- If it is not listed, the attempt is refused, and the engine is as before. -/
  unlisted : n ∉ e.registry.scenarioNames → outcome = (.refused (.unknownScenario n), e)

variable {e : Engine} {now : Instant} {s : SessionId} {n v : String}

/-- A session is shown the scenarios that mappings are bound to, each in its state and with its possible states. -/
theorem scenarios_eq (e : Engine) (s : SessionId) : e.scenarios s =
    e.registry.scenarioNames.map fun n => ⟨n, e.store.effectiveState s n, e.registry.possibleStates n⟩ := by
  unfold scenarios
  rw [Registry.scenarios_eq, List.map_map]
  rfl

theorem map_name_scenarios (e : Engine) (s : SessionId) : (e.scenarios s).map (·.name) = e.registry.scenarioNames := by
  rw [scenarios_eq, List.map_map]
  exact List.map_id _

theorem scenarios_congr {e' : Engine} {t : SessionId} (hregistry : e'.registry = e.registry)
    (hstates : ∀ n, e'.store.effectiveState t n = e.store.effectiveState t n) : e'.scenarios t = e.scenarios t := by
  rw [scenarios_eq, scenarios_eq, hregistry]
  simp only [hstates]

/-- Putting a scenario of a session into a state shows in its summary for that session, and in no other. -/
theorem scenarios_setState (e : Engine) (now : Instant) (s : SessionId) (n v : String) :
    let e' := { e with store := e.store.setState now s n v }
    e'.scenarios s = (e.scenarios s).map (·.put n v) ∧ ∀ t, t ≠ s → e'.scenarios t = e.scenarios t := by
  intro e'
  have hstate : ∀ t n', e'.store.effectiveState t n' = if t = s ∧ n' = n then v else e.store.effectiveState t n' := by
    intro t n'
    unfold Store.effectiveState
    rw [Store.peek_setState]
    split <;> rfl
  constructor
  · rw [scenarios_eq, scenarios_eq, List.map_map]
    refine List.map_congr_left fun n' _ => ?_
    unfold Function.comp ScenarioSummary.put
    rw [hstate]
    dsimp only
    by_cases hn : n' = n
    · rw [if_pos ⟨rfl, hn⟩, if_pos hn]
    · rw [if_neg (fun h => hn h.2), if_neg hn]
  · intro t ht
    exact scenarios_congr rfl fun n' => (hstate t n').trans (if_neg fun h => ht h.1)

theorem putsListed_set (e : Engine) (now : Instant) (s : SessionId) (n v : String) :
    e.PutsListed s n v (e.perform now (.setScenarioState s n v)) := by
  rw [perform_setScenarioState]
  constructor
  case listed =>
    intro h
    rw [if_pos (Registry.mem_scenarioNames.mp h)]
    exact ⟨rfl, scenarios_setState e now s n v⟩
  case unlisted =>
    intro h
    exact if_neg fun hknown => h (Registry.mem_scenarioNames.mpr hknown)

/-- **Summaries agree with control.** The names of the listed scenarios ascend, and are those that mappings are bound
to. Every session is shown each of them once, in the state that is stored for it or else the start state; the possible
states ascend, and are the start state and those that a mapping of the scenario requires or moves it to. Exactly the
listed scenarios can be put into a state or back into the start state, which then shows in their summary for that
session and nowhere else. -/
theorem summaries_agree_with_control (e : Engine) :
    (e.registry.scenarioNames.Pairwise (· < ·) ∧
      ∀ n, n ∈ e.registry.scenarioNames ↔ ∃ m ∈ e.registry.mappings, m.scenarioName = some n) ∧
    (∀ s, (e.scenarios s).map (·.name) = e.registry.scenarioNames ∧ ∀ x ∈ e.scenarios s,
      x.state = (e.store.peek s x.name).getD startState ∧ x.possibleStates.Pairwise (· < ·) ∧
        ∀ v, v ∈ x.possibleStates ↔ v = startState ∨ ∃ m ∈ e.registry.mappings, ∃ rule, m.scenario = some rule ∧
          rule.name = x.name ∧ (rule.requiredState = some v ∨ rule.newState = some v)) ∧
    (∀ now s n v, e.PutsListed s n v (e.perform now (.setScenarioState s n v))) ∧
    ∀ now s n, e.PutsListed s n startState (e.perform now (.resetScenario s n)) := by
  refine ⟨⟨Registry.pairwise_scenarioNames _, fun n => ?names⟩, fun s => ⟨map_name_scenarios e s, fun x hx => ?summary⟩,
    putsListed_set e, fun now s n => ?reset⟩
  case names =>
    rw [Registry.mem_scenarioNames]
    unfold Registry.knowsScenario
    simp only [List.any_eq_true, beq_iff_eq]
  case summary =>
    rw [scenarios_eq] at hx
    obtain ⟨n, -, rfl⟩ := List.mem_map.mp hx
    exact ⟨rfl, Registry.pairwise_possibleStates e.registry n, fun v => Registry.mem_possibleStates⟩
  case reset =>
    rw [perform_resetScenario]
    exact putsListed_set e now s n startState

end Engine

end ScenarioStubs
