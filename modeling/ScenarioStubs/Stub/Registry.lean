import ScenarioStubs.Scenario.State
import ScenarioStubs.Stub.Mapping

/-!
# The registry of mappings

Mappings are kept in the order in which their identifiers arrived. Storing a mapping under an identifier that is
present replaces the old one in place.
-/

namespace ScenarioStubs

/-- The registered mappings, in order. -/
structure Registry where
  mappings : List StubMapping

namespace Registry

/-- No mapping. -/
def empty : Registry := ⟨[]⟩

instance : Inhabited Registry := ⟨empty⟩

/-- The mapping under an identifier. -/
def get? (r : Registry) (id : StubId) : Option StubMapping := r.mappings.find? (·.id == id)

/-- Whether an identifier is registered. -/
def contains (r : Registry) (id : StubId) : Bool := r.mappings.any (·.id == id)

/-- The list with the first mapping under an identifier replaced. -/
def replaceFirst (id : StubId) (m : StubMapping) : List StubMapping → List StubMapping
  | [] => []
  | m' :: rest => if m'.id == id then m :: rest else m' :: replaceFirst id m rest

/-- The registry with a mapping stored under its identifier: in place if that is present, else at the end. -/
def add (r : Registry) (m : StubMapping) : Registry :=
  if r.contains m.id then ⟨replaceFirst m.id m r.mappings⟩ else ⟨r.mappings ++ [m]⟩

/-- The registry with the mapping under an identifier replaced; the new one takes the identifier. -/
def replace (r : Registry) (id : StubId) (m : StubMapping) : Except MappingError Registry :=
  if r.contains id then .ok ⟨replaceFirst id (m.withId id) r.mappings⟩ else .error (.notFound id)

/-- The mapping under an identifier, if there is one, and the registry without it. -/
def remove (r : Registry) (id : StubId) : Option StubMapping × Registry :=
  (r.get? id, ⟨r.mappings.eraseP (·.id == id)⟩)

/-- The number of mappings. -/
def size (r : Registry) : Nat := r.mappings.length

/-- Whether no mapping is registered. -/
def isEmpty (r : Registry) : Bool := r.mappings.isEmpty

/-- The scenario rules of the mappings, in order. -/
def rules (r : Registry) : List ScenarioRule := r.mappings.filterMap (·.scenario)

/-- The names of the scenarios that some mapping is bound to, ascending. -/
def scenarioNames (r : Registry) : List String := sortedSet (r.rules.map (·.name))

/-- The states that the mappings bound to a scenario mention, and the start state, ascending. -/
def possibleStates (r : Registry) (name : String) : List String :=
  sortedSet <| startState :: (r.rules.filter (·.name == name)).flatMap fun rule =>
    rule.requiredState.toList ++ rule.newState.toList

/-- The states of each scenario with those that a rule mentions added to its scenario, which has the start state if it
comes up for the first time. -/
def mention (scenarios : SortedMap String (SortedMap String Unit)) (rule : ScenarioRule) :
    SortedMap String (SortedMap String Unit) :=
  let states := (scenarios.get? rule.name).getD (SortedMap.empty.addAll [startState])
  scenarios.insert rule.name (states.addAll (rule.requiredState.toList ++ rule.newState.toList))

/-- Every scenario with its possible states, ascending by name. -/
def scenarios (r : Registry) : List (String × List String) :=
  (r.rules.foldl mention .empty).toList.map fun (name, states) => (name, states.keys)

/-- Whether some mapping is bound to a scenario. -/
def knowsScenario (r : Registry) (name : String) : Bool := r.mappings.any (·.scenarioName == some name)

/-- The mappings as listed. -/
def toJson (r : Registry) : List Json := r.mappings.map StubMapping.toJson

end Registry

end ScenarioStubs
