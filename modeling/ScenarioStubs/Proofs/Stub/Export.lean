import ScenarioStubs.Proofs.Json.Record
import ScenarioStubs.Proofs.Stub.Draft
import ScenarioStubs.Proofs.Stub.Pattern
import ScenarioStubs.Proofs.Uuid
import ScenarioStubs.Stub.Definition

/-!
# Reading back exported mappings

- Responses, patterns and mappings are written as the fields that have a value (`toJson_eq`), all of them plain values
  (`plain_toJson`), and are read as they were (`decode?_toJson`). A pattern is read as the pattern of its fields, which
  is the pattern itself if it was built.
- The predicate that every request passes is listed as the pattern with the method `ANY`, which gives the same verdicts
  (`Listed.exists_pattern`).

Together: `export_import`.
-/

namespace ScenarioStubs

/-! ## Responses -/

namespace ResponseTemplate

variable (r : ResponseTemplate)

/-- The fields of a written response. -/
def slots : List (String × Option Json) :=
  [("body", r.body.map .text), ("headers", Json.table? .text r.headers), ("status", some (.nat r.status.toNat))]

theorem toJson_eq : r.toJson = .fields (Json.present r.slots) := by
  unfold toJson slots Json.table?
  cases r.body <;> cases r.headers.isEmpty <;> rfl

theorem plain_toJson : r.toJson.Plain := by
  rw [toJson_eq]
  refine Json.plain_present fun slot hslot v hv => ?_
  simp only [slots, List.mem_cons, List.not_mem_nil, or_false] at hslot
  obtain rfl | rfl | rfl := hslot
  · exact Json.plain_of_map_text hv
  · exact Json.plain_of_table? .text hv
  · cases hv
    exact .nat _

theorem decodeHeaders?_table (entries : List (String × String)) :
    decodeHeaders? (Json.fields (entries.map fun e => (e.1, Json.text e.2))) = some (.ofList entries) := by
  unfold decodeHeaders?
  rw [Json.fields?_fields]
  exact congrArg (Option.bind · _) (Json.mapM_table .text Document.text? (fun _ => rfl) entries)

/-- A response is read back from its written form. -/
theorem decode?_toJson : decode? r.toJson = some r := by
  have hnodup : (r.slots.map (·.1)).Nodup := by simp [slots]
  have hstatus : Document.natBelow? 65536 (Json.nat r.status.toNat) = some r.status.toNat :=
    Json.natBelow?_nat r.status.toNat_lt_size
  unfold decode?
  rw [toJson_eq, Record.of?_present hnodup (by simp [slots])]
  simp only [bind, Option.bind_some]
  rw [Record.field?_present hnodup "status" (some (.nat r.status.toNat)) (by simp [slots]),
    Record.field?_table hnodup "headers" r.headers (by simp [slots]) decodeHeaders?_table,
    Record.field?_textOrNone hnodup "body" r.body (by simp [slots])]
  simp [hstatus]

end ResponseTemplate

/-! ## Patterns -/

namespace RequestPattern

variable (p : RequestPattern)

/-- The fields of a written pattern. -/
def slots : List (String × Option Json) :=
  [("headers", Json.table? matcherJson p.fields.headers), ("method", p.fields.method.map .text),
    ("url", p.fields.url.map .text), ("urlPath", p.fields.urlPath.map .text),
    ("urlPattern", p.fields.urlPattern.map .text)]

theorem optionalField_eq (name : String) (value : Option String) :
    optionalField name value = Json.present [(name, value.map .text)] := by
  cases value <;> rfl

theorem toJson_eq : p.toJson = .fields (Json.present p.slots) := by
  have hheaders : (if p.fields.headers.isEmpty then []
      else [("headers", Json.fields (p.fields.headers.toList.map fun e => (e.1, matcherJson e.2)))]) =
        Json.present [("headers", Json.table? matcherJson p.fields.headers)] := by
    unfold Json.table?
    cases p.fields.headers.isEmpty <;> rfl
  unfold toJson slots
  rw [hheaders]
  simp only [optionalField_eq, Json.present, ← List.filterMap_append]
  rfl

theorem plain_matcherJson (m : HeaderMatcher) : (matcherJson m).Plain := by
  cases m <;> exact .fields fun f hf => by cases List.mem_singleton.mp hf; exact .text _

theorem plain_toJson : p.toJson.Plain := by
  rw [toJson_eq]
  refine Json.plain_present fun slot hslot v hv => ?_
  simp only [slots, List.mem_cons, List.not_mem_nil, or_false] at hslot
  obtain rfl | rfl | rfl | rfl | rfl := hslot
  · exact Json.plain_of_table? plain_matcherJson hv
  all_goals exact Json.plain_of_map_text hv

theorem decodeMatcher?_matcherJson (m : HeaderMatcher) : decodeMatcher? (matcherJson m) = some m := by
  cases m <;> rfl

theorem decodeHeaders?_table (entries : List (String × HeaderMatcher)) :
    decodeHeaders? (Json.fields (entries.map fun e => (e.1, matcherJson e.2))) = some (.ofList entries) := by
  unfold decodeHeaders?
  rw [Json.fields?_fields]
  exact congrArg (Option.bind · _) (Json.mapM_table matcherJson decodeMatcher? decodeMatcher?_matcherJson entries)

/-- A pattern is read from its written form as the pattern of its fields. -/
theorem decode?_toJson : decode? p.toJson = some (ofFields p.fields) := by
  have hnodup : (p.slots.map (·.1)).Nodup := by simp [slots]
  unfold decode?
  rw [toJson_eq, Record.of?_present hnodup (by simp [slots])]
  simp only [bind, Option.bind_some]
  rw [Record.field?_textOrNone hnodup "method" p.fields.method (by simp [slots]),
    Record.field?_textOrNone hnodup "url" p.fields.url (by simp [slots]),
    Record.field?_textOrNone hnodup "urlPath" p.fields.urlPath (by simp [slots]),
    Record.field?_textOrNone hnodup "urlPattern" p.fields.urlPattern (by simp [slots]),
    Record.field?_table hnodup "headers" p.fields.headers (by simp [slots]) decodeHeaders?_table]
  rfl

theorem upperAscii_any : Text.upperAscii "ANY" = "ANY" := by decide +kernel

theorem fields_anyMethod : (any.withMethod "ANY").fields = { method := some "ANY" } :=
  congrArg (fun method => ({ method := some method } : PatternFields)) upperAscii_any

/-- The method `ANY` admits every request. -/
theorem evaluate_anyMethod (r : Request) : (any.withMethod "ANY").evaluate r = .ok true := by
  have hmethod : (any.withMethod "ANY").methodMatches r = true := by
    unfold methodMatches
    rw [fields_anyMethod]
    rfl
  unfold evaluate
  rw [hmethod, fields_anyMethod]
  rfl

theorem toJson_anyMethod : (any.withMethod "ANY").toJson = .fields [("method", .text "ANY")] := by
  unfold toJson
  rw [fields_anyMethod]
  rfl

end RequestPattern

/-! ## Predicates -/

/-- The predicates that are listed as a pattern: the one that every request passes, and patterns that were built. -/
inductive Predicate.Listed : Predicate → Prop
  | always : Listed .always
  | pattern {p : RequestPattern} (h : p.Built) : Listed (.pattern p)

/-- A predicate is listed as a pattern that gives the same verdicts. -/
theorem Predicate.Listed.exists_pattern {q : Predicate} (h : q.Listed) :
    ∃ p : RequestPattern, p.Built ∧ q.describe = p.toJson ∧ ∀ r, p.evaluate r = q.evaluate r := by
  cases h with
  | always =>
    exact ⟨RequestPattern.any.withMethod "ANY", .withMethod .any "ANY", RequestPattern.toJson_anyMethod.symm,
      RequestPattern.evaluate_anyMethod⟩
  | pattern h => exact ⟨_, h, rfl, fun _ => rfl⟩

/-! ## Mappings -/

namespace StubMapping

variable (m : StubMapping)

/-- The fields of a written mapping. -/
def slots : List (String × Option Json) :=
  [("id", some (.text m.id.render)), ("newScenarioState", (m.scenario.bind (·.newState)).map .text),
    ("priority", some (.nat m.priority.toNat)), ("request", some m.predicate.describe),
    ("requiredScenarioState", (m.scenario.bind (·.requiredState)).map .text), ("response", some m.response.toJson),
    ("scenarioName", m.scenarioName.map .text)]

theorem toJson_eq : m.toJson = .fields (Json.present m.slots) := by
  unfold toJson slots
  dsimp only
  cases m.scenario.bind (·.newState) <;> cases m.scenario.bind (·.requiredState) <;> cases m.scenarioName <;> rfl

theorem plain_toJson (h : m.predicate.describe.Plain) : m.toJson.Plain := by
  rw [toJson_eq]
  refine Json.plain_present fun slot hslot v hv => ?_
  simp only [slots, List.mem_cons, List.not_mem_nil, or_false] at hslot
  obtain rfl | rfl | rfl | rfl | rfl | rfl | rfl := hslot
  · cases hv
    exact .text _
  · exact Json.plain_of_map_text hv
  · cases hv
    exact .nat _
  · cases hv
    exact h
  · exact Json.plain_of_map_text hv
  · cases hv
    exact m.response.plain_toJson
  · exact Json.plain_of_map_text hv

/-- The definition with the fields of a mapping. -/
def definition (p : RequestPattern) : MappingDefinition where
  id := some m.id
  priority := some m.priority
  scenarioName := m.scenarioName
  requiredState := m.scenario.bind (·.requiredState)
  newState := m.scenario.bind (·.newState)
  request := p
  response := m.response

/-- A mapping is read from its written form as the definition with its fields. -/
theorem decode?_toJson {p : RequestPattern} (hp : p.Built) (hlisted : m.predicate.describe = p.toJson) :
    MappingDefinition.decode? m.toJson = some (m.definition p) := by
  have hnodup : (m.slots.map (·.1)).Nodup := by simp [slots]
  unfold MappingDefinition.decode?
  rw [toJson_eq, Record.of?_present hnodup (by simp [slots])]
  simp only [bind, Option.bind_some]
  have hid : Document.optional? (fun d => (Document.text? d).bind Uuid.parse?) (Json.text m.id.render) =
      some (some m.id) := by
    refine Json.optional?_of_decode rfl ?_
    rw [Json.text?_text, Option.bind_some, Uuid.parse?_render]
  have hpriority : Document.optional? (Document.natBelow? UInt32.size) (Json.nat m.priority.toNat) =
      some (some m.priority.toNat) := Json.optional?_of_decode rfl (Json.natBelow?_nat m.priority.toNat_lt_size)
  have hrequest : RequestPattern.decode? m.predicate.describe = some p := by
    rw [hlisted, RequestPattern.decode?_toJson, hp.ofFields_fields]
  rw [Record.field?_present hnodup "id" (some (.text m.id.render)) (by simp [slots]),
    Record.field?_present hnodup "priority" (some (.nat m.priority.toNat)) (by simp [slots]),
    Record.field?_textOrNone hnodup "scenarioName" m.scenarioName (by simp [slots]),
    Record.field?_textOrNone hnodup "requiredScenarioState" (m.scenario.bind (·.requiredState)) (by simp [slots]),
    Record.field?_textOrNone hnodup "newScenarioState" (m.scenario.bind (·.newState)) (by simp [slots]),
    Record.field?_present hnodup "request" (some m.predicate.describe) (by simp [slots]),
    Record.field?_present hnodup "response" (some m.response.toJson) (by simp [slots])]
  simp [hid, hpriority, hrequest, ResponseTemplate.decode?_toJson, definition]

/-- **Exported mappings can be imported.** Take a mapping that was built from a draft and whose predicate is listed as a
pattern. Its written form, as a text, is read as a definition, and the definition is built into a mapping, whatever
fresh identifier is offered. That mapping has the same identifier, priority, scenario rule and response, its predicate
gives the same verdict on every request, and it has the same written form. -/
theorem export_import (d : MappingDraft) (fresh fresh' : StubId) (m : StubMapping) (hbuild : d.build fresh = .ok m)
    (hlisted : m.predicate.Listed) :
    ∃ definition m', (Json.parse? m.toJson.render).bind MappingDefinition.decode? = some definition ∧
      definition.build fresh' = .ok m' ∧ m'.id = m.id ∧ m'.priority = m.priority ∧ m'.scenario = m.scenario ∧
      m'.response = m.response ∧ (∀ r, m'.predicate.evaluate r = m.predicate.evaluate r) ∧ m'.toJson = m.toJson := by
  obtain ⟨p, hp, hdescribe, hverdict⟩ := hlisted.exists_pattern
  have hplain : m.toJson.Plain := m.plain_toJson (hdescribe ▸ p.plain_toJson)
  have hread : (Json.parse? m.toJson.render).bind MappingDefinition.decode? = some (m.definition p) := by
    rw [Json.parse?_render hplain, Option.bind_some, m.decode?_toJson hp hdescribe]
  have hbuild' : (m.definition p).build fresh' = .ok { m with predicate := .pattern p } :=
    MappingDraft.rebuild hbuild fresh' (.pattern p)
  refine ⟨m.definition p, { m with predicate := .pattern p }, hread, hbuild', rfl, rfl, rfl, rfl, hverdict, ?_⟩
  unfold toJson
  rw [hdescribe]
  rfl

/-- The pattern has a method in lower case, an expression that cannot be compiled, and a header with a quote and a line
feed; the response has a header with a letter outside ASCII and a tab. -/
theorem export_import_of_order :
    let pattern :=
      ((RequestPattern.any.withMethod "post").withUrlPattern "/orders/[").withHeader "Note" (.contains "\"\n")
    let response := (ResponseTemplate.ofStatus 201).withHeader "Å" "\t"
    let d : MappingDraft :=
      { predicate := some (.pattern pattern), scenarioName := some "order", newState := some "placed", response }
    ∃ m, d.build ⟨7⟩ = .ok m ∧ ∃ definition m',
      (Json.parse? m.toJson.render).bind MappingDefinition.decode? = some definition ∧
        definition.build ⟨8⟩ = .ok m' ∧ m'.id = ⟨7⟩ ∧ m'.priority = 5 ∧
        m'.scenario = some ⟨"order", none, some "placed"⟩ ∧ m'.response = response ∧
        (∀ r, m'.predicate.evaluate r = pattern.evaluate r) ∧ m'.toJson = m.toJson := by
  intro pattern response d
  have hpattern : pattern.Built := ((RequestPattern.Built.any.withMethod "post").withUrlPattern _).withHeader _ _
  exact ⟨_, rfl, export_import d ⟨7⟩ ⟨8⟩ _ rfl (.pattern hpattern)⟩

end StubMapping

end ScenarioStubs
