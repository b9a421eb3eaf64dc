import ScenarioStubs.Stub.Mapping

/-!
# What drafts are built into

A draft is built exactly if its scenario fields fit together, it has a predicate and its status is one of HTTP, and the
mapping then has the fields of the draft (`build_eq_ok_iff`). The scenario fields of a draft are those of its rule
(`fields_of_rule`), so the fields of a mapping make a draft that is built into it again (`rebuild`).
-/

namespace ScenarioStubs

namespace MappingDraft

variable {d : MappingDraft} {fresh : StubId} {m : StubMapping}

/-- A draft is built into the mapping with its fields, where the rules for them are kept. -/
theorem build_eq_ok_iff : d.build fresh = .ok m ↔ ∃ scenario predicate, d.rule = .ok scenario ∧
    d.predicate = some predicate ∧ d.response.hasValidStatus = true ∧
      m = ⟨d.id.getD fresh, d.priority.getD defaultPriority, predicate, scenario, d.response⟩ := by
  unfold build
  cases d.rule with
  | error cause => simp [bind, Except.bind]
  | ok scenario =>
    cases d.predicate with
    | none => simp [bind, Except.bind]
    | some predicate =>
      by_cases hstatus : d.response.hasValidStatus = true
      · simp [bind, Except.bind, pure, Except.pure, hstatus, eq_comm]
      · simp [bind, Except.bind, hstatus]

/-- The scenario fields of a draft are those of its rule. -/
theorem fields_of_rule {scenario : Option ScenarioRule} (h : d.rule = .ok scenario) :
    d.scenarioName = scenario.map (·.name) ∧ d.requiredState = scenario.bind (·.requiredState) ∧
      d.newState = scenario.bind (·.newState) := by
  unfold rule at h
  cases hname : d.scenarioName with
  | some name =>
    simp only [hname] at h
    split at h
    · cases h
    split at h
    · cases h
    split at h
    · cases h
    cases h
    exact ⟨rfl, rfl, rfl⟩
  | none =>
    simp only [hname] at h
    split at h
    · cases h
    case isFalse hrequired =>
    split at h
    · cases h
    case isFalse hnew =>
    cases h
    exact ⟨rfl, Option.not_isSome_iff_eq_none.mp hrequired, Option.not_isSome_iff_eq_none.mp hnew⟩

/-- The fields of a mapping that was built make a draft that is built into it, whatever predicate it is given. -/
theorem rebuild (h : d.build fresh = .ok m) (fresh' : StubId) (predicate : Predicate) :
    MappingDraft.build fresh'
        { id := some m.id, priority := some m.priority, predicate := some predicate, scenarioName := m.scenarioName,
          requiredState := m.scenario.bind (·.requiredState), newState := m.scenario.bind (·.newState),
          response := m.response } =
      .ok { m with predicate } := by
  obtain ⟨scenario, q, hrule, -, hstatus, rfl⟩ := build_eq_ok_iff.mp h
  obtain ⟨hname, hrequired, hnew⟩ := fields_of_rule hrule
  refine build_eq_ok_iff.mpr ⟨scenario, predicate, ?_, rfl, hstatus, rfl⟩
  rw [← hrule]
  unfold rule StubMapping.scenarioName
  simp only [hname, hrequired, hnew]

end MappingDraft

end ScenarioStubs
