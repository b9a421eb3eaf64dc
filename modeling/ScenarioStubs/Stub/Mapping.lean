import ScenarioStubs.Stub.Predicate
import ScenarioStubs.Stub.Response
import ScenarioStubs.Uuid

/-!
# Stub mappings

A mapping answers the requests that its predicate admits. It may be bound to a scenario: it may require a state of it,
and it may move it to a new state when it is served. `MappingDraft.build` admits a draft only if its parts fit
together, and otherwise names the first rule that they break.
-/

namespace ScenarioStubs

/-- The identifier of a mapping. -/
abbrev StubId := Uuid

/-- The binding of a mapping to a scenario. -/
structure ScenarioRule where
  name : String
  requiredState : Option String
  newState : Option String
  deriving DecidableEq

/-- Whether the rule requires a state. -/
def ScenarioRule.isGated (rule : ScenarioRule) : Bool := rule.requiredState.isSome

/-- A stub mapping. Of two candidates the one with the smaller priority number is preferred. -/
structure StubMapping where
  id : StubId
  priority : UInt32
  predicate : Predicate
  scenario : Option ScenarioRule
  response : ResponseTemplate

namespace StubMapping

/-- The scenario that a mapping is bound to. -/
def scenarioName (m : StubMapping) : Option String := m.scenario.map (·.name)

/-- Whether a mapping requires a state of its scenario. -/
def isGated (m : StubMapping) : Bool := m.scenario.any ScenarioRule.isGated

/-- The mapping under another identifier. -/
def withId (m : StubMapping) (id : StubId) : StubMapping := { m with id }

/-- The written form for listings. -/
def toJson (m : StubMapping) : Json :=
  let state (get : ScenarioRule → Option String) := m.scenario.bind get
  .fields <|
    [("id", Json.text m.id.render)] ++
    RequestPattern.optionalField "newScenarioState" (state (·.newState)) ++
    [("priority", .nat m.priority.toNat), ("request", m.predicate.describe)] ++
    RequestPattern.optionalField "requiredScenarioState" (state (·.requiredState)) ++
    [("response", m.response.toJson)] ++
    RequestPattern.optionalField "scenarioName" m.scenarioName

end StubMapping

/-! ## Errors -/

/-- A state that a mapping may declare. -/
inductive StateField
  | required
  | new
  deriving DecidableEq

/-- The name of the field that holds the state. -/
def StateField.fieldName : StateField → String
  | .required => "requiredScenarioState"
  | .new => "newScenarioState"

/-- A part of a scenario rule. -/
inductive ScenarioField
  | name
  | state (field : StateField)
  deriving DecidableEq

/-- The words for a part of a scenario rule. -/
def ScenarioField.words : ScenarioField → String
  | .name => "name"
  | .state .required => "required state"
  | .state .new => "new state"

/-- Why a mapping is refused, or not found. -/
inductive MappingError
  /-- A state is declared without a scenario. -/
  | inconsistentScenarioReference (field : StateField)
  | missingPredicate
  | invalidStatus (status : UInt16)
  | emptyScenarioField (field : ScenarioField)
  | notFound (id : StubId)
  deriving DecidableEq

/-- The wording of a mapping error. -/
def MappingError.message : MappingError → String
  | .inconsistentScenarioReference field => "mapping declares " ++ field.fieldName ++ " without scenarioName"
  | .missingPredicate => "mapping has no request predicate"
  | .invalidStatus status => "invalid response status: " ++ toString status.toNat
  | .emptyScenarioField field => "empty scenario " ++ field.words
  | .notFound id => "stub mapping not found: " ++ id.render

/-! ## Drafts -/

/-- The priority of a mapping that sets none. -/
def defaultPriority : UInt32 := 5

/-- A mapping in the making. -/
structure MappingDraft where
  id : Option StubId := none
  priority : Option UInt32 := none
  predicate : Option Predicate := none
  scenarioName : Option String := none
  requiredState : Option String := none
  newState : Option String := none
  response : ResponseTemplate := {}

namespace MappingDraft

/-- The draft with its three scenario fields set or cleared at once. -/
def withScenario (d : MappingDraft) (name required new : Option String) : MappingDraft :=
  { d with scenarioName := name, requiredState := required, newState := new }

/-- The scenario rule of a draft: with a name, the name and each state declared must not be empty; without a name, no
state may be declared. -/
def rule (d : MappingDraft) : Except MappingError (Option ScenarioRule) :=
  match d.scenarioName with
  | some name =>
    if name = "" then .error (.emptyScenarioField .name)
    else if d.requiredState = some "" then .error (.emptyScenarioField (.state .required))
    else if d.newState = some "" then .error (.emptyScenarioField (.state .new))
    else .ok (some ⟨name, d.requiredState, d.newState⟩)
  | none =>
    if d.requiredState.isSome then .error (.inconsistentScenarioReference .required)
    else if d.newState.isSome then .error (.inconsistentScenarioReference .new)
    else .ok none

/-- The mapping of a draft, with the identifier `fresh` if the draft has none. -/
def build (fresh : StubId) (d : MappingDraft) : Except MappingError StubMapping := do
  let scenario ← d.rule
  let some predicate := d.predicate | .error .missingPredicate
  if d.response.hasValidStatus then
    return { id := d.id.getD fresh, priority := d.priority.getD defaultPriority, predicate, scenario,
             response := d.response }
  else .error (.invalidStatus d.response.status)

end MappingDraft

end ScenarioStubs
