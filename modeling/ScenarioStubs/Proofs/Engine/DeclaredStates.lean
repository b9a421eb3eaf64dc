import ScenarioStubs.Proofs.Engine.Mappings
import ScenarioStubs.Proofs.Engine.States
import ScenarioStubs.Proofs.Engine.Summaries

/-!
# Sessions visit declared states only

The store holds states, and the registry lists the states that the mappings declare; nothing compares the two. As long
as mappings are only added, and a scenario is put into declared states only (`Operation.Declares`), every stored pair
belongs to a known scenario and is in a declared state (`Engine.Declared`): a scenario is moved by a mapping that
declares the new state, a pair is stored by a request only in the start state, and what is declared stays declared
(`possibleStates_mono`). One call keeps that (`declared_step`), so every run does (`states_stay_declared`).
-/

namespace ScenarioStubs

/-- What some mapping moves a scenario to is a possible state of it. -/
theorem Registry.mem_possibleStates_of_move? {r : Registry} {m : StubMapping} {n v : String} (hm : m ∈ r.mappings)
    (hmove : m.move? = some (n, v)) : v ∈ r.possibleStates n := by
  obtain ⟨rule, hrule, hname, hnew⟩ := StubMapping.move?_eq_some_iff.mp hmove
  exact mem_possibleStates.mpr (.inr ⟨m, hm, rule, hrule, hname, .inr hnew⟩)

/-- With these mappings registered, the operation registers mappings under new identifiers only, removes and replaces
none, and puts a scenario into a possible state of it, if at all. -/
def Operation.Declares (r : Registry) : Operation → Prop
  | .register m => m.id ∉ r.ids
  | .registerDefinition fresh d => ∀ m, d.build fresh = .ok m → m.id ∉ r.ids
  | .replaceStub id _ | .removeStub id => id ∉ r.ids
  | .setScenarioState _ n v => r.knowsScenario n = true → v ∈ r.possibleStates n
  | .clearStubs | .reset => False
  | _ => True

instance Operation.Declares.decidable (r : Registry) : (op : Operation) → Decidable (op.Declares r)
  | .register m => inferInstanceAs (Decidable (m.id ∉ r.ids))
  | .registerDefinition fresh d =>
    match h : d.build fresh with
    | .ok m => decidable_of_iff (m.id ∉ r.ids)
      ⟨fun hm _ hbuild => Except.ok.inj (h.symm.trans hbuild) ▸ hm, fun hm => hm m h⟩
    | .error _ => .isTrue fun _ hbuild => nomatch h.symm.trans hbuild
  | .replaceStub id _ | .removeStub id => inferInstanceAs (Decidable (id ∉ r.ids))
  | .setScenarioState _ n v => inferInstanceAs (Decidable (r.knowsScenario n = true → v ∈ r.possibleStates n))
  | .clearStubs | .reset => .isFalse id
  | .serve .. | .matchIn .. | .resetScenario .. | .resetSession .. | .scenarios .. | .resetScenarios | .evictExpired ..
  | .evictIdle .. => .isTrue trivial

/-- No mapping is lost. -/
theorem Registry.mappings_subset_edit {r : Registry} {op : Operation} (h : op.Declares r) :
    r.mappings ⊆ (r.edit op).mappings := by
  cases op with
  | register m => exact mappings_subset_add h
  | registerDefinition fresh d =>
    dsimp only [edit]
    split
    case h_1 m hbuild => exact mappings_subset_add (h m hbuild)
    case h_2 => exact List.Subset.refl _
  | replaceStub id m =>
    dsimp only [edit]
    rw [replace_of_not_mem h]
    exact List.Subset.refl _
  | removeStub id =>
    dsimp only [edit]
    rw [remove_of_not_mem h]
    exact List.Subset.refl _
  | clearStubs | reset => exact h.elim
  | serve | matchIn | setScenarioState | resetScenario | resetSession | scenarios | resetScenarios | evictExpired
    | evictIdle => exact List.Subset.refl _

namespace Engine

/-- Every stored pair belongs to a known scenario, and is in a possible state of it. -/
def Declared (e : Engine) : Prop := ∀ s n v, e.store.peek s n = some v →
  e.registry.knowsScenario n = true ∧ v ∈ e.registry.possibleStates n

variable {e : Engine} {c : Call} {s : SessionId} {n v : String} {summary : ScenarioSummary}

/-! ## One call -/

/-- A scenario that a request names is known. -/
theorem Names.knowsScenario {r : Request} (h : e.Names r n) : e.registry.knowsScenario n = true := by
  obtain ⟨m, hm, -, hname⟩ := h
  unfold Registry.knowsScenario
  rw [List.any_eq_true]
  exact ⟨m, hm, beq_iff_eq.mpr hname⟩

theorem mem_possibleStates_of_puts (hcall : c.operation.Declares e.registry) (h : e.Puts c s n v) :
    v ∈ e.registry.possibleStates n := by
  rcases h.asked with hset | ⟨-, rfl⟩
  · rw [hset] at hcall
    exact hcall h.known
  · exact Registry.startState_mem_possibleStates e.registry n

/-- What a call leaves a pair in is a state that was declared before the call. -/
theorem Declared.of_peek_step (h : e.Declared) (hcall : c.operation.Declares e.registry)
    (hpeek : (e.step c).store.peek s n = some v) :
    e.registry.knowsScenario n = true ∧ v ∈ e.registry.possibleStates n := by
  have hbecomes := becomes_step e c s n
  generalize (e.step c).store.peek s n = state at hpeek hbecomes
  cases hbecomes with
  | gone => cases hpeek
  | put hputs =>
    cases hpeek
    exact ⟨hputs.known, mem_possibleStates_of_puts hcall hputs⟩
  | @moved m v hserves hmove =>
    cases hpeek
    have hm := hserves.mem_mappings
    obtain ⟨rule, hrule, rfl, -⟩ := StubMapping.move?_eq_some_iff.mp hmove
    exact ⟨Registry.knowsScenario_of_mem hm hrule, Registry.mem_possibleStates_of_move? hm hmove⟩
  | begun _ hnames =>
    cases hpeek
    exact ⟨hnames.knowsScenario, Registry.startState_mem_possibleStates e.registry n⟩
  | kept => exact h s n v hpeek

theorem declared_step (hcall : c.operation.Declares e.registry) (h : e.Declared) : (e.step c).Declared := by
  have hgrows : e.registry.mappings ⊆ (e.step c).registry.mappings := by
    rw [step_registry]
    exact Registry.mappings_subset_edit hcall
  intro s n v hpeek
  obtain ⟨hknown, hstate⟩ := h.of_peek_step hcall hpeek
  exact ⟨Registry.knowsScenario_mono hgrows hknown, Registry.possibleStates_mono hgrows hstate⟩

/-! ## What is listed -/

theorem mem_scenarios_iff : summary ∈ e.scenarios s ↔ ∃ n, e.registry.knowsScenario n = true ∧
    summary = ⟨n, e.store.effectiveState s n, e.registry.possibleStates n⟩ := by
  simp only [scenarios_eq, List.mem_map, Registry.mem_scenarioNames, eq_comm]

theorem Declared.effectiveState_mem (h : e.Declared) (s : SessionId) (n : String) :
    e.store.effectiveState s n ∈ e.registry.possibleStates n := by
  unfold Store.effectiveState
  cases hpeek : e.store.peek s n with
  | none => exact Registry.startState_mem_possibleStates e.registry n
  | some v => exact (h s n v hpeek).2

/-- **Sessions visit declared states only.** Take a run of a new engine along which mappings are registered under new
identifiers only, none is removed or replaced, and scenarios are put into states only that are possible for them then.
At every point of the run every session is shown each scenario in one of its possible states, and every scenario that
is stored for a session is shown to it, in the state that is stored. -/
theorem states_stay_declared (config : EngineConfig) (calls : List Call)
    (h : (new config).Throughout (fun e c => c.operation.Declares e.registry) calls) (i : Nat) (s : SessionId) :
    (∀ summary ∈ ((new config).after (calls.take i)).scenarios s, summary.state ∈ summary.possibleStates) ∧
      ∀ n v, ((new config).after (calls.take i)).store.peek s n = some v →
        ∃ summary ∈ ((new config).after (calls.take i)).scenarios s, summary.name = n ∧ summary.state = v := by
  have hnew : (new config).Declared := by
    intro s n v hpeek
    have hnone : (new config).store.peek s n = none := Store.peek_of_none (Store.sessions_empty s) n
    cases hnone.symm.trans hpeek
  have hdeclared : ((new config).after (calls.take i)).Declared :=
    h.preserves Declared (fun _ _ => declared_step) (Nat.zero_le i) hnew
  constructor
  · intro summary hsummary
    obtain ⟨n, -, rfl⟩ := mem_scenarios_iff.mp hsummary
    exact hdeclared.effectiveState_mem s n
  · intro n v hpeek
    refine ⟨_, mem_scenarios_iff.mpr ⟨n, (hdeclared s n v hpeek).1, rfl⟩, rfl, ?_⟩
    unfold Store.effectiveState
    rw [hpeek]
    rfl

/-- Session `a` is put into a state that the first mapping declares, is moved on by the second, which comes later, and
starts anew; meanwhile a session is minted, and removing a mapping that is not registered is refused. -/
theorem states_stay_declared_of_order :
    let a : SessionId := ⟨"a", by decide⟩
    let place : StubMapping := ⟨⟨1⟩, 5, .always, some ⟨"order", some "Started", some "placed"⟩, .ofStatus 201⟩
    let pay : StubMapping := ⟨⟨2⟩, 5, .always, some ⟨"order", some "placed", some "paid"⟩, .ofStatus 202⟩
    let r := Request.new "GET" "/"
    let calls : List Call := [⟨⟨0⟩, .register place⟩, ⟨⟨1⟩, .setScenarioState a "order" "placed"⟩, ⟨⟨2⟩, .register pay⟩,
      ⟨⟨3⟩, .matchIn a r⟩, ⟨⟨4⟩, .serve ⟨"m", by decide⟩ r⟩, ⟨⟨5⟩, .removeStub ⟨3⟩⟩, ⟨⟨6⟩, .resetScenario a "order"⟩]
    ((new {}).after (calls.take 4)).store.peek a "order" = some "paid" ∧
      (∃ summary ∈ ((new {}).after (calls.take 4)).scenarios a, summary.name = "order" ∧ summary.state = "paid") ∧
      ∀ i s, ∀ summary ∈ ((new {}).after (calls.take i)).scenarios s, summary.state ∈ summary.possibleStates := by
  intro a place pay r calls
  have h : (new {}).Throughout (fun e c => c.operation.Declares e.registry) calls := by decide +kernel
  have hpaid : ((new {}).after (calls.take 4)).store.peek a "order" = some "paid" := by decide +kernel
  obtain ⟨-, hlisted⟩ := states_stay_declared {} calls h 4 a
  refine ⟨hpaid, hlisted "order" "paid" hpaid, fun i s => ?_⟩
  exact (states_stay_declared {} calls h i s).1

end Engine

end ScenarioStubs
