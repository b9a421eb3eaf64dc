import ScenarioStubs.Proofs.Stub.Draft
import ScenarioStubs.Stub.Definition

/-!
# Valid mappings

A mapping is valid if its rule names the scenario and every state that it declares by a text that is not empty, and its
status is one of HTTP (`StubMapping.Valid`). What a draft is built into is valid (`MappingDraft.valid_of_build`), and so
is every mapping that there is a way to make: from a draft, from a definition, and under another identifier
(`StubMapping.Made.valid`).
-/

namespace ScenarioStubs

/-- The scenario and the declared states have names. -/
structure ScenarioRule.Valid (rule : ScenarioRule) : Prop where
  name : rule.name ≠ ""
  required : rule.requiredState ≠ some ""
  new : rule.newState ≠ some ""

/-- The mapping has no rule or a valid one, and the status of its response is one of HTTP. -/
structure StubMapping.Valid (m : StubMapping) : Prop where
  rule : ∀ rule, m.scenario = some rule → rule.Valid
  status : 100 ≤ m.response.status ∧ m.response.status ≤ 599

/-- The ways to come by a mapping. A draft holds what was set last in each of its fields. -/
inductive StubMapping.Made : StubMapping → Prop
  | built {fresh : StubId} {d : MappingDraft} {m : StubMapping} (h : d.build fresh = .ok m) : Made m
  | defined {fresh : StubId} {d : MappingDefinition} {m : StubMapping} (h : d.build fresh = .ok m) : Made m
  | withId {m : StubMapping} (h : Made m) (id : StubId) : Made (m.withId id)

theorem ResponseTemplate.hasValidStatus_iff {r : ResponseTemplate} :
    r.hasValidStatus = true ↔ 100 ≤ r.status ∧ r.status ≤ 599 := by
  unfold hasValidStatus
  rw [Bool.and_eq_true, decide_eq_true_iff, decide_eq_true_iff]

namespace MappingDraft

variable {d : MappingDraft} {fresh : StubId} {m : StubMapping} {rule : ScenarioRule}

/-- The rule of a draft is valid. -/
theorem valid_of_rule (h : d.rule = .ok (some rule)) : rule.Valid := by
  unfold MappingDraft.rule at h
  split at h
  case h_1 name _ =>
    split at h
    case isTrue => cases h
    case isFalse hname =>
    split at h
    case isTrue => cases h
    case isFalse hrequired =>
    split at h
    case isTrue => cases h
    case isFalse hnew =>
    cases h
    exact ⟨hname, hrequired, hnew⟩
  case h_2 =>
    split at h
    case isTrue => cases h
    case isFalse =>
    split at h <;> cases h

/-- What a draft is built into is valid. -/
theorem valid_of_build (h : d.build fresh = .ok m) : m.Valid := by
  obtain ⟨scenario, predicate, hrule, -, hstatus, rfl⟩ := build_eq_ok_iff.mp h
  refine ⟨fun rule hscenario => ?_, ResponseTemplate.hasValidStatus_iff.mp hstatus⟩
  have hscenario : scenario = some rule := hscenario
  subst hscenario
  exact valid_of_rule hrule

end MappingDraft

namespace StubMapping

variable {m : StubMapping}

theorem Valid.withId (h : m.Valid) (id : StubId) : (m.withId id).Valid := ⟨h.rule, h.status⟩

/-- However a mapping was made, it is valid. -/
theorem Made.valid (h : m.Made) : m.Valid := by
  induction h with
  | built h => exact MappingDraft.valid_of_build h
  | defined h => exact MappingDraft.valid_of_build h
  | withId _ id ih => exact ih.withId id

end StubMapping

end ScenarioStubs
