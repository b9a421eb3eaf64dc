import ScenarioStubs.Engine.Basic
import ScenarioStubs.Stub.Definition

/-!
# Administration of an engine

Registering and removing mappings, and looking at and changing the scenarios of a session. Only a scenario that some
registered mapping is bound to can be changed.
-/

namespace ScenarioStubs

/-- Why an administrative operation is refused. -/
inductive AdminError
  | invalidMapping (cause : MappingError)
  | unknownScenario (name : String)
  deriving DecidableEq

namespace AdminError

/-- The wording of an error. -/
def message : AdminError → String
  | .invalidMapping cause => "invalid mapping: " ++ cause.message
  | .unknownScenario name => "unknown scenario: " ++ name

/-- Whether the error is that something named does not exist. -/
def isNotFound : AdminError → Bool
  | .invalidMapping (.notFound _) => true
  | .invalidMapping _ => false
  | .unknownScenario _ => true

end AdminError

/-- A scenario as a session sees it. -/
structure ScenarioSummary where
  name : String
  state : String
  possibleStates : List String
  deriving DecidableEq

/-- The written form of a summary. -/
def ScenarioSummary.toJson (s : ScenarioSummary) : Json :=
  .fields [("name", .text s.name), ("possibleStates", .texts s.possibleStates), ("state", .text s.state)]

namespace Engine

/-- The engine with a mapping registered. -/
def register (e : Engine) (m : StubMapping) : Engine := { e with registry := e.registry.add m }

/-- The engine with the mapping of a definition registered, and the mapping's identifier. -/
def registerDefinition (e : Engine) (fresh : StubId) (d : MappingDefinition) : Except AdminError (StubId × Engine) :=
  match d.build fresh with
  | .ok m => .ok (m.id, e.register m)
  | .error cause => .error (.invalidMapping cause)

/-- The engine with the mapping under an identifier replaced in place. -/
def replaceStub (e : Engine) (id : StubId) (m : StubMapping) : Except AdminError Engine :=
  match e.registry.replace id m with
  | .ok registry => .ok { e with registry }
  | .error cause => .error (.invalidMapping cause)

/-- The mapping under an identifier, and the engine without it. -/
def removeStub (e : Engine) (id : StubId) : Except AdminError (StubMapping × Engine) :=
  match e.registry.remove id with
  | (some m, registry) => .ok (m, { e with registry })
  | (none, _) => .error (.invalidMapping (.notFound id))

/-- The engine without mappings. -/
def clearStubs (e : Engine) : Engine := { e with registry := .empty }

/-- The engine with every scenario of every session back in the start state. -/
def resetScenarios (e : Engine) : Engine := { e with store := e.store.resetAll }

/-- The engine without mappings and states. -/
def reset (e : Engine) : Engine := e.clearStubs.resetScenarios

/-- The engine without the states of a session. -/
def resetSession (e : Engine) (s : SessionId) : Engine := { e with store := e.store.resetSession s }

/-- The engine with a scenario of a session put into a state. -/
def setScenarioState (e : Engine) (now : Instant) (s : SessionId) (name state : String) : Except AdminError Engine :=
  if e.registry.knowsScenario name then .ok { e with store := e.store.setState now s name state }
  else .error (.unknownScenario name)

/-- The engine with a scenario of a session put back into the start state. -/
def resetScenario (e : Engine) (now : Instant) (s : SessionId) (name : String) : Except AdminError Engine :=
  e.setScenarioState now s name startState

/-- Every scenario as a session sees it, ascending by name. Nothing is stored by looking. -/
def scenarios (e : Engine) (s : SessionId) : List ScenarioSummary :=
  e.registry.scenarios.map fun (name, possibleStates) => ⟨name, e.store.effectiveState s name, possibleStates⟩

/-- The engine without the sessions that have been idle for longer than a span, and their number. -/
def evictIdle (e : Engine) (now : Instant) (limit : Duration) : Nat × Engine :=
  let (n, store) := e.store.evictIdle now limit
  (n, { e with store })

end Engine

end ScenarioStubs
