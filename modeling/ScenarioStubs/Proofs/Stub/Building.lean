import Mathlib.Data.List.Induction
import ScenarioStubs.Proofs.Engine.Operation
import ScenarioStubs.Proofs.Since
import ScenarioStubs.Proofs.Stub.Validity

/-!
# Building mappings call by call

A mapping is built by setting fields of a draft one after the other (`MappingDraft.Setting`) and building the draft at
last. Each field then holds what the last setting of it gave it, or what it holds at first (`ofSettings_eq_held`). The
rules for a draft are checked in a fixed order (`checks`): it is built exactly if it breaks none of them (`fits_iff`,
`build_eq_ok_iff_fits`), and the error is otherwise that of the first rule that it breaks (`build_eq_error_iff`). A
definition is built like the draft that its fields are set in (`MappingDefinition.ofSettings_settings`).

Together: `build_after_settings`.
-/

namespace ScenarioStubs

namespace MappingDraft

/-! ## Setting fields -/

/-- What can be set in a draft. -/
inductive Setting
  | id (id : StubId)
  | priority (priority : UInt32)
  | request (predicate : Predicate)
  | inScenario (name : String)
  | whenState (state : String)
  | setState (state : String)
  /-- The three fields of the scenario are set or cleared at once. -/
  | scenario (name required new : Option String)
  | respond (response : ResponseTemplate)

/-- The draft with something set. -/
def set (d : MappingDraft) : Setting → MappingDraft
  | .id id => { d with id := some id }
  | .priority priority => { d with priority := some priority }
  | .request predicate => { d with predicate := some predicate }
  | .inScenario name => { d with scenarioName := some name }
  | .whenState state => { d with requiredState := some state }
  | .setState state => { d with newState := some state }
  | .scenario name required new => d.withScenario name required new
  | .respond response => { d with response }

/-- The draft after some settings. -/
def ofSettings (settings : List Setting) : MappingDraft := settings.foldl set {}

/-- A field of a draft. -/
inductive Field
  | id
  | priority
  | predicate
  | scenarioName
  | requiredState
  | newState
  | response

/-- What a field can hold. -/
def Field.Content : Field → Type
  | id => Option StubId
  | priority => Option UInt32
  | predicate => Option Predicate
  | scenarioName | requiredState | newState => Option String
  | response => ResponseTemplate

/-- What a field holds at first. -/
def Field.first : (field : Field) → field.Content
  | id | priority | predicate | scenarioName | requiredState | newState => none
  | response => ResponseTemplate.ofStatus 200

/-- What a setting gives to a field, if it is about that field. -/
def Setting.given? : (field : Field) → Setting → Option field.Content
  | .id, .id given => some (some given)
  | .priority, .priority given => some (some given)
  | .predicate, .request given => some (some given)
  | .scenarioName, .inScenario name => some (some name)
  | .scenarioName, .scenario name _ _ => some name
  | .requiredState, .whenState state => some (some state)
  | .requiredState, .scenario _ required _ => some required
  | .newState, .setState state => some (some state)
  | .newState, .scenario _ _ new => some new
  | .response, .respond given => some given
  | _, _ => none

/-- What the last setting of a field gave to it. -/
def heldIn (settings : List Setting) (field : Field) : field.Content :=
  lastGiven (Setting.given? field) field.first settings

/-- The draft whose fields hold what was given to them last. -/
def held (settings : List Setting) : MappingDraft where
  id := heldIn settings .id
  priority := heldIn settings .priority
  predicate := heldIn settings .predicate
  scenarioName := heldIn settings .scenarioName
  requiredState := heldIn settings .requiredState
  newState := heldIn settings .newState
  response := heldIn settings .response

theorem held_concat (settings : List Setting) (s : Setting) : held (settings ++ [s]) = (held settings).set s := by
  unfold held heldIn
  simp only [lastGiven_concat]
  cases s <;> rfl

theorem ofSettings_concat (settings : List Setting) (s : Setting) :
    ofSettings (settings ++ [s]) = (ofSettings settings).set s :=
  List.foldl_append

theorem ofSettings_eq_held (settings : List Setting) : ofSettings settings = held settings := by
  induction settings using List.reverseRecOn with
  | nil => rfl
  | append_singleton settings s ih =>
    rw [ofSettings_concat, held_concat, ih]

/-! ## The rules for drafts -/

/-- A state that a draft declares. -/
def state (d : MappingDraft) : StateField → Option String
  | .required => d.requiredState
  | .new => d.newState

/-- The parts of a draft fit together: no state is declared without a scenario, the scenario and the states declared
with it have names, there is a predicate, and the status is one of HTTP. -/
structure Fits (d : MappingDraft) : Prop where
  bound : d.scenarioName = none → ∀ field, d.state field = none
  name_ne_empty : d.scenarioName ≠ some ""
  state_ne_empty : d.scenarioName ≠ none → ∀ field, d.state field ≠ some ""
  predicate : d.predicate ≠ none
  status : 100 ≤ d.response.status ∧ d.response.status ≤ 599

/-- The draft breaks the rule that an error is about. -/
def Breaks (d : MappingDraft) : MappingError → Prop
  | .emptyScenarioField .name => d.scenarioName = some ""
  | .emptyScenarioField (.state field) => d.scenarioName ≠ none ∧ d.state field = some ""
  | .inconsistentScenarioReference field => d.scenarioName = none ∧ d.state field ≠ none
  | .missingPredicate => d.predicate = none
  | .invalidStatus status => status = d.response.status ∧ ¬(100 ≤ status ∧ status ≤ 599)
  | .notFound _ => False

/-- The rules about the scenario in the order in which they are checked, each as the error for breaking it. -/
def scenarioChecks : List MappingError :=
  [.emptyScenarioField .name, .emptyScenarioField (.state .required), .emptyScenarioField (.state .new),
    .inconsistentScenarioReference .required, .inconsistentScenarioReference .new]

/-- The rules in the order in which they are checked, each as the error for breaking it. -/
def checks (d : MappingDraft) : List MappingError :=
  scenarioChecks ++ [.missingPredicate, .invalidStatus d.response.status]

/-- The error is about the first rule that a draft breaks. -/
def FirstBroken (d : MappingDraft) (cause : MappingError) : Prop :=
  ∃ before after, d.checks = before ++ cause :: after ∧ d.Breaks cause ∧ ∀ earlier ∈ before, ¬d.Breaks earlier

/-- A mapping has the fields of a draft, with an identifier and a priority where the draft has none. -/
structure Carries (d : MappingDraft) (fresh : StubId) (m : StubMapping) : Prop where
  id : m.id = d.id.getD fresh
  priority : m.priority = d.priority.getD 5
  predicate : d.predicate = some m.predicate
  scenario : m.scenario = d.scenarioName.map fun name => ⟨name, d.requiredState, d.newState⟩
  response : m.response = d.response

instance (d : MappingDraft) (cause : MappingError) : Decidable (d.Breaks cause) :=
  match cause with
  | .emptyScenarioField .name => inferInstanceAs (Decidable (d.scenarioName = some ""))
  | .emptyScenarioField (.state field) => inferInstanceAs (Decidable (d.scenarioName ≠ none ∧ d.state field = some ""))
  | .inconsistentScenarioReference field => inferInstanceAs (Decidable (d.scenarioName = none ∧ d.state field ≠ none))
  | .missingPredicate => inferInstanceAs (Decidable (d.predicate = none))
  | .invalidStatus status =>
    inferInstanceAs (Decidable (status = d.response.status ∧ ¬(100 ≤ status ∧ status ≤ 599)))
  | .notFound _ => inferInstanceAs (Decidable False)

variable {d : MappingDraft} {cause : MappingError} {fresh : StubId} {m m' : StubMapping}

theorem Breaks.mem_checks (h : d.Breaks cause) : cause ∈ d.checks := by
  cases cause with
  | emptyScenarioField field =>
    obtain _ | field := field
    · simp [checks, scenarioChecks]
    · cases field <;> simp [checks, scenarioChecks]
  | inconsistentScenarioReference field => cases field <;> simp [checks, scenarioChecks]
  | missingPredicate => simp [checks]
  | invalidStatus status => simp [checks, h.1]
  | notFound id => exact h.elim

/-- A draft whose parts fit together is one that breaks no rule. -/
theorem fits_iff : d.Fits ↔ ∀ cause, ¬d.Breaks cause := by
  constructor
  · intro h cause hbreaks
    match cause with
    | .emptyScenarioField .name => exact h.name_ne_empty hbreaks
    | .emptyScenarioField (.state field) => exact h.state_ne_empty hbreaks.1 field hbreaks.2
    | .inconsistentScenarioReference field => exact hbreaks.2 (h.bound hbreaks.1 field)
    | .missingPredicate => exact h.predicate hbreaks
    | .invalidStatus status => exact hbreaks.2 (hbreaks.1 ▸ h.status)
    | .notFound id => exact hbreaks
  · intro h
    constructor
    case bound =>
      intro hname field
      exact Decidable.byContradiction fun hstate => h (.inconsistentScenarioReference field) ⟨hname, hstate⟩
    case name_ne_empty => exact h (.emptyScenarioField .name)
    case state_ne_empty => exact fun hname field hstate => h (.emptyScenarioField (.state field)) ⟨hname, hstate⟩
    case predicate => exact h .missingPredicate
    case status => exact Decidable.byContradiction fun hstatus => h (.invalidStatus d.response.status) ⟨rfl, hstatus⟩

theorem firstBroken_iff : d.FirstBroken cause ↔ d.checks.find? (d.Breaks ·) = some cause := by
  rw [List.find?_eq_some_iff_append]
  simp only [decide_eq_true_iff, Bool.not_eq_true', decide_eq_false_iff_not]
  constructor
  · rintro ⟨before, after, hchecks, hbreaks, hbefore⟩
    exact ⟨hbreaks, before, after, hchecks, hbefore⟩
  · rintro ⟨hbreaks, before, after, hchecks, hbefore⟩
    exact ⟨before, after, hchecks, hbreaks, hbefore⟩

/-- A draft that breaks some rule breaks one first. -/
theorem Breaks.exists_firstBroken (h : d.Breaks cause) : ∃ first, d.FirstBroken first := by
  simp only [firstBroken_iff]
  rw [← Option.isSome_iff_exists, List.find?_isSome]
  exact ⟨cause, h.mem_checks, decide_eq_true h⟩

/-! ## Building -/

theorem Carries.unique (h : d.Carries fresh m) (h' : d.Carries fresh m') : m = m' := by
  have hpredicate : m.predicate = m'.predicate := Option.some.inj (h.predicate.symm.trans h'.predicate)
  obtain ⟨id, priority, predicate, scenario, response⟩ := m
  obtain ⟨id', priority', predicate', scenario', response'⟩ := m'
  obtain rfl : id = id' := h.id.trans h'.id.symm
  obtain rfl : priority = priority' := h.priority.trans h'.priority.symm
  obtain rfl : predicate = predicate' := hpredicate
  obtain rfl : scenario = scenario' := h.scenario.trans h'.scenario.symm
  obtain rfl : response = response' := h.response.trans h'.response.symm
  rfl

theorem carries_of_build (h : d.build fresh = .ok m) : d.Carries fresh m := by
  obtain ⟨scenario, predicate, hrule, hpredicate, -, rfl⟩ := build_eq_ok_iff.mp h
  obtain ⟨hname, hrequired, hnew⟩ := fields_of_rule hrule
  refine ⟨rfl, rfl, hpredicate, ?_, rfl⟩
  rw [hname, hrequired, hnew]
  cases scenario <;> rfl

/-- The scenario of a draft is refused for the first rule about it that the draft breaks. -/
theorem rule_eq_error_iff : d.rule = .error cause ↔ scenarioChecks.find? (d.Breaks ·) = some cause := by
  unfold rule
  cases hname : d.scenarioName with
  | none =>
    simp only [scenarioChecks, Breaks, state, hname, List.find?_cons, List.find?_nil]
    cases d.requiredState <;> cases d.newState <;> simp
  | some name =>
    simp only [scenarioChecks, Breaks, state, hname, List.find?_cons, List.find?_nil]
    by_cases hempty : name = "" <;> by_cases hrequired : d.requiredState = some "" <;>
      by_cases hnew : d.newState = some "" <;> simp [hempty, hrequired, hnew]

/-- A draft is refused for the first rule that it breaks. -/
theorem build_eq_error_iff : d.build fresh = .error cause ↔ d.FirstBroken cause := by
  rw [firstBroken_iff, checks, List.find?_append]
  unfold build
  cases hrule : d.rule with
  | error first =>
    rw [rule_eq_error_iff.mp hrule]
    simp [bind, Except.bind]
  | ok scenario =>
    have hkept : scenarioChecks.find? (d.Breaks ·) = none := by
      rw [Option.eq_none_iff_forall_ne_some]
      intro first hfirst
      cases hrule.symm.trans (rule_eq_error_iff.mpr hfirst)
    rw [hkept, Option.none_or]
    cases hpredicate : d.predicate with
    | none => simp [bind, Except.bind, Breaks, hpredicate]
    | some predicate =>
      by_cases hstatus : d.response.hasValidStatus = true
      · have hstatus' := ResponseTemplate.hasValidStatus_iff.mp hstatus
        simp [bind, Except.bind, pure, Except.pure, Breaks, hpredicate, hstatus, hstatus']
      · have hstatus' := mt ResponseTemplate.hasValidStatus_iff.mpr hstatus
        simp [bind, Except.bind, Breaks, hpredicate, hstatus, hstatus']

/-- A draft is built if its parts fit together, and not otherwise. -/
theorem exists_build_iff_fits : (∃ m, d.build fresh = .ok m) ↔ d.Fits := by
  cases hbuild : d.build fresh with
  | ok m =>
    refine iff_of_true ⟨m, rfl⟩ (fits_iff.mpr fun cause hbreaks => ?_)
    obtain ⟨first, hfirst⟩ := hbreaks.exists_firstBroken
    cases hbuild.symm.trans (build_eq_error_iff.mpr hfirst)
  | error cause =>
    obtain ⟨-, -, -, hbreaks, -⟩ := build_eq_error_iff.mp hbuild
    refine iff_of_false ?_ fun hfits => fits_iff.mp hfits cause hbreaks
    rintro ⟨m, h⟩
    cases h

/-- What a draft is built into has its fields. -/
theorem build_eq_ok_iff_fits : d.build fresh = .ok m ↔ d.Fits ∧ d.Carries fresh m := by
  constructor
  · exact fun h => ⟨exists_build_iff_fits.mp ⟨m, h⟩, carries_of_build h⟩
  · rintro ⟨hfits, hcarries⟩
    obtain ⟨m', hbuild⟩ := exists_build_iff_fits.mpr hfits
    rwa [hcarries.unique (carries_of_build hbuild)]

end MappingDraft

/-! ## Definitions -/

namespace MappingDefinition

/-- The fields of a definition, set in a draft one after the other. -/
def settings (d : MappingDefinition) : List MappingDraft.Setting :=
  [.request (.pattern d.request), .scenario d.scenarioName d.requiredState d.newState, .respond d.response] ++
    (d.id.map .id).toList ++ (d.priority.map .priority).toList

theorem ofSettings_settings (d : MappingDefinition) : MappingDraft.ofSettings d.settings = d.toDraft := by
  unfold settings toDraft
  cases d.id <;> cases d.priority <;> rfl

end MappingDefinition

/-- An engine refuses a definition, and stays as it is, if the definition is not built. -/
theorem Engine.perform_registerDefinition_eq_refused_iff (e : Engine) (now : Instant) (fresh : StubId)
    (d : MappingDefinition) (cause : MappingError) :
    e.perform now (.registerDefinition fresh d) = (.refused (.invalidMapping cause), e) ↔
      d.build fresh = .error cause := by
  rw [perform_registerDefinition]
  cases d.build fresh <;> simp

namespace MappingDraft

/-- **What is built after some settings.** Let each field of a draft hold what the last setting of it gave it. The
draft is built exactly if no state is declared without a scenario, the scenario and the states declared with it have
names, there is a predicate, and the status is one of HTTP; the mapping then has the fields of the draft, with the fresh
identifier, the priority 5 and a response with status 200 where none was set. Otherwise the error is about the first
rule that the draft breaks. A definition is built, or refused, like the draft that its fields are set in, and an engine
to which a definition is refused stays as it is. -/
theorem build_after_settings (settings : List Setting) (fresh : StubId) :
    ((∃ m, (ofSettings settings).build fresh = .ok m) ↔ (held settings).Fits) ∧
      (∀ m, (ofSettings settings).build fresh = .ok m ↔ (held settings).Fits ∧ (held settings).Carries fresh m) ∧
      (∀ cause, (ofSettings settings).build fresh = .error cause ↔ (held settings).FirstBroken cause) ∧
      ∀ definition : MappingDefinition, definition.build fresh = (ofSettings definition.settings).build fresh ∧
        ∀ (e : Engine) (now : Instant) (cause : MappingError),
          e.perform now (.registerDefinition fresh definition) = (.refused (.invalidMapping cause), e) ↔
            definition.build fresh = .error cause := by
  rw [ofSettings_eq_held]
  refine ⟨exists_build_iff_fits, fun m => build_eq_ok_iff_fits, fun cause => build_eq_error_iff, fun definition => ?_⟩
  refine ⟨?_, fun e now cause => e.perform_registerDefinition_eq_refused_iff now fresh definition cause⟩
  rw [definition.ofSettings_settings]
  rfl

/-- The name is cleared after it was set, so that the state, empty as it is, is declared without a scenario. -/
example : (ofSettings [.inScenario "order", .whenState "", .scenario none (some "") none]).build ⟨0⟩ =
    .error (.inconsistentScenarioReference .required) := rfl

end MappingDraft

end ScenarioStubs
