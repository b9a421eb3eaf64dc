import ScenarioStubs.Proofs.Engine.Operation
import ScenarioStubs.Proofs.Http.Server

/-!
# Runs of a server

A message asks for one operation of the engine at most (`operation?`), of seven kinds (`asked_of_operation?`), and what
becomes of the engine by answering it is what that operation makes of it (`answer_snd`). So a run of exchanges leaves
the engine that the run of the operations asked for leaves (`after_eq`), and what holds along every run of operations
holds along every run of exchanges.
-/

namespace ScenarioStubs.Http

/-- A message with what is at hand when it is answered. -/
structure Exchange where
  now : Instant
  fresh : Fresh
  message : Message

/-- The engine after an exchange. -/
def step (e : Engine) (x : Exchange) : Engine := (answer e x.now x.fresh x.message).2

/-- The engine after a run of exchanges. -/
def after (e : Engine) (xs : List Exchange) : Engine := xs.foldl step e

/-- The exchanges of a run with their replies. -/
def replies : Engine → List Exchange → List (Exchange × Reply)
  | _, [] => []
  | e, x :: rest => (x, (answer e x.now x.fresh x.message).1) :: replies (step e x) rest

/-- The session that a message presents under given settings, or the shared one. -/
def sessionUnder (c : EngineConfig) (m : Message) : SessionId :=
  c.sessions.resolver.resolvePresented m.requestHeaders (Cookies.ofHeaders m.requestHeaders)

/-- The operation that an administrative message asks for under given settings. A message that cannot be read asks for
none, nor does one that lists the mappings. -/
def AdminRoute.operation? (c : EngineConfig) (fresh : StubId) (m : Message) : AdminRoute → Option Operation
  | .createMapping => ((Json.parseBytes? m.body).bind MappingDefinition.decode?).map (.registerDefinition fresh)
  | .listMappings => none
  | .resetMappings | .reset => some .reset
  | .removeMapping id => (Uuid.parse? id).map .removeStub
  | .resetScenarios => some .resetScenarios
  | .listScenarios => some (.scenarios (sessionUnder c m))
  | .setScenarioState segment =>
    (requestedState? m.body).bind fun state => (Percent.decode? segment).map fun name =>
      .setScenarioState (sessionUnder c m) name (state.getD startState)

/-- The operation that a message asks for under given settings. -/
def operation? (c : EngineConfig) (fresh : Fresh) (m : Message) : Option Operation :=
  match AdminRoute.ofMessage? m with
  | none => some (.serve fresh.session m.toRequest)
  | some route => route.operation? c fresh.stub m

/-- The call that an exchange comes to. -/
def call? (c : EngineConfig) (x : Exchange) : Option Call :=
  (operation? c x.fresh x.message).map fun op => ⟨x.now, op⟩

/-- A condition on an engine and the exchange that it is about to have holds at the exchange at a place of a run. -/
def At (p : Engine → Exchange → Prop) (e : Engine) (xs : List Exchange) (i : Nat) : Prop :=
  ∃ x, xs[i]? = some x ∧ p (after e (xs.take i)) x

/-- What a message can ask for under given settings. -/
inductive Asked (c : EngineConfig) (fresh : Fresh) (m : Message) : Operation → Prop
  | serve : Asked c fresh m (.serve fresh.session m.toRequest)
  | registerDefinition (d : MappingDefinition) : Asked c fresh m (.registerDefinition fresh.stub d)
  | removeStub (id : StubId) : Asked c fresh m (.removeStub id)
  | reset : Asked c fresh m .reset
  | resetScenarios : Asked c fresh m .resetScenarios
  | scenarios : Asked c fresh m (.scenarios (sessionUnder c m))
  | setScenarioState {segment name : String} {state : Option String}
    (hroute : AdminRoute.ofMessage? m = some (.setScenarioState segment)) (hbody : requestedState? m.body = some state)
    (hname : Percent.decode? segment = some name) :
    Asked c fresh m (.setScenarioState (sessionUnder c m) name (state.getD startState))

variable {e : Engine}

theorem asked_of_operation? {c : EngineConfig} {fresh : Fresh} {m : Message} {op : Operation}
    (h : operation? c fresh m = some op) : Asked c fresh m op := by
  unfold operation? at h
  split at h
  case h_1 =>
    cases h
    exact .serve
  case h_2 route hroute =>
    cases route with
    | createMapping =>
      obtain ⟨d, -, rfl⟩ := Option.map_eq_some_iff.mp h
      exact .registerDefinition d
    | listMappings => cases h
    | resetMappings | reset =>
      cases h
      exact .reset
    | removeMapping segment =>
      obtain ⟨id, -, rfl⟩ := Option.map_eq_some_iff.mp h
      exact .removeStub id
    | resetScenarios =>
      cases h
      exact .resetScenarios
    | listScenarios =>
      cases h
      exact .scenarios
    | setScenarioState segment =>
      obtain ⟨state, hbody, hrest⟩ := Option.bind_eq_some_iff.mp h
      obtain ⟨name, hname, rfl⟩ := Option.map_eq_some_iff.mp hrest
      exact .setScenarioState hroute hbody hname

theorem answerAdmin_snd (now : Instant) (fresh : StubId) (m : Message) (route : AdminRoute) :
    (answerAdmin e now fresh m route).2 =
      (route.operation? e.config fresh m).elim e fun op => (e.perform now op).2 := by
  cases route with
  | createMapping =>
    unfold answerAdmin AdminRoute.operation?
    dsimp only
    cases (Json.parseBytes? m.body).bind MappingDefinition.decode? with
    | none => rfl
    | some d =>
      dsimp only [Option.map_some, Option.elim_some]
      rw [Engine.perform_registerDefinition]
      unfold Engine.registerDefinition
      cases d.build fresh <;> rfl
  | listMappings | resetMappings | reset | resetScenarios | listScenarios => rfl
  | removeMapping segment =>
    unfold answerAdmin AdminRoute.operation?
    dsimp only
    cases Uuid.parse? segment with
    | none => rfl
    | some id =>
      dsimp only [Option.map_some, Option.elim_some]
      rw [Engine.perform_removeStub]
      unfold Engine.removeStub Registry.remove
      cases e.registry.get? id <;> rfl
  | setScenarioState segment =>
    rw [answerAdmin_setScenarioState]
    unfold AdminRoute.operation?
    dsimp only
    cases requestedState? m.body with
    | none => rfl
    | some state =>
      dsimp only [Option.bind_some]
      cases Percent.decode? segment with
      | none => rfl
      | some name =>
        dsimp only [Option.map_some, Option.elim_some]
        rw [Engine.perform_setScenarioState]
        unfold Engine.setScenarioState
        cases e.registry.knowsScenario name <;> rfl

/-- Answering a message is performing the operation that it asks for. -/
theorem answer_snd (now : Instant) (fresh : Fresh) (m : Message) : (answer e now fresh m).2 =
    (operation? e.config fresh m).elim e fun op => (e.perform now op).2 := by
  unfold operation?
  cases hroute : AdminRoute.ofMessage? m with
  | none =>
    rw [answer_of_stub hroute]
    rfl
  | some route =>
    unfold answer
    rw [hroute]
    exact answerAdmin_snd now fresh.stub m route

theorem step_eq (x : Exchange) : step e x = (call? e.config x).elim e e.step := by
  unfold step call?
  rw [answer_snd]
  cases operation? e.config x.fresh x.message <;> rfl

@[simp] theorem step_config (x : Exchange) : (step e x).config = e.config := by
  rw [step_eq]
  cases call? e.config x with
  | none => rfl
  | some c => exact e.step_config c

/-- A run of exchanges leaves the engine that the run of the operations asked for leaves. -/
theorem after_eq (xs : List Exchange) : after e xs = e.after (xs.filterMap (call? e.config)) := by
  induction xs generalizing e with
  | nil => rfl
  | cons x rest ih =>
    have hrest : after e (x :: rest) = after (step e x) rest := rfl
    rw [hrest, ih, step_config, List.filterMap_cons, step_eq]
    cases call? e.config x <;> rfl

theorem after_config (xs : List Exchange) : (after e xs).config = e.config := by
  rw [after_eq, Engine.after_config]

theorem after_take_succ {xs : List Exchange} {i : Nat} {x : Exchange} (h : xs[i]? = some x) :
    after e (xs.take (i + 1)) = step (after e (xs.take i)) x := by
  unfold after
  rw [List.take_add_one, h, Option.toList_some, List.foldl_append]
  rfl

end ScenarioStubs.Http
