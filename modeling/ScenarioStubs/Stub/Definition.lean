import ScenarioStubs.Stub.Mapping

/-!
# Written definitions of mappings

A definition is what a client sends to register a mapping; every field of it is optional.
-/

namespace ScenarioStubs

/-- A mapping as a client writes it. -/
structure MappingDefinition where
  id : Option StubId := none
  priority : Option UInt32 := none
  scenarioName : Option String := none
  requiredState : Option String := none
  newState : Option String := none
  request : RequestPattern := .any
  response : ResponseTemplate := {}

namespace MappingDefinition

/-- The draft with the fields of a definition. -/
def toDraft (d : MappingDefinition) : MappingDraft where
  id := d.id
  priority := d.priority
  predicate := some (.pattern d.request)
  scenarioName := d.scenarioName
  requiredState := d.requiredState
  newState := d.newState
  response := d.response

/-- The mapping of a definition, with the identifier `fresh` if the definition has none. -/
def build (fresh : StubId) (d : MappingDefinition) : Except MappingError StubMapping := d.toDraft.build fresh

/-- The written form; absent optional fields are left out. -/
def toJson (d : MappingDefinition) : Json :=
  .fields <|
    RequestPattern.optionalField "id" (d.id.map Uuid.render) ++
    RequestPattern.optionalField "newScenarioState" d.newState ++
    (match d.priority with
      | some n => [("priority", Json.nat n.toNat)]
      | none => []) ++
    [("request", d.request.toJson)] ++
    RequestPattern.optionalField "requiredScenarioState" d.requiredState ++
    [("response", d.response.toJson)] ++
    RequestPattern.optionalField "scenarioName" d.scenarioName

variable {δ : Type} [Document δ]

/-- The definition that a document writes. -/
def decode? (d : δ) : Option MappingDefinition := do
  let r ← Record.of?
    ["id", "priority", "scenarioName", "requiredScenarioState", "newScenarioState", "request", "response"] d
  let text := Document.optional? (δ := δ) Document.text?
  let id ← r.field? "id" (Document.optional? fun d => (Document.text? d).bind Uuid.parse?) none
  let priority ← r.field? "priority" (Document.optional? (Document.natBelow? UInt32.size)) none
  let scenarioName ← r.field? "scenarioName" text none
  let requiredState ← r.field? "requiredScenarioState" text none
  let newState ← r.field? "newScenarioState" text none
  let request ← r.field? "request" RequestPattern.decode? .any
  let response ← r.field? "response" ResponseTemplate.decode? {}
  return { id, priority := priority.map Nat.toUInt32, scenarioName, requiredState, newState, request, response }

end MappingDefinition

end ScenarioStubs
