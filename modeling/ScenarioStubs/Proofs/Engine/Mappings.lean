import ScenarioStubs.Proofs.Engine.Operation
import ScenarioStubs.Proofs.Stub.Registry
import ScenarioStubs.Proofs.Stub.Validity

/-!
# What operations do to the mappings

The mappings after an operation are those before it, edited as the operation says (`Registry.edit`,
`Engine.perform_registry`); nothing else in the engine matters. So engines with the same mappings still have the same
after the same operation, an operation on a session alone leaves them as they are (`Registry.edit_of_session?`), and a
mapping gets into the registry only by an operation that stores it (`Engine.mem_mappings_after`). What is stored is
valid if there was a way to make it, so every mapping that a run leaves is (`Engine.valid_of_mem_mappings_after`).
-/

namespace ScenarioStubs

/-- The operation stores a mapping: the one that is registered, the one that a definition is built into, or the one that
replaces another and takes its identifier. -/
inductive Operation.Stores : Operation → StubMapping → Prop
  | register (m : StubMapping) : Stores (.register m) m
  | registerDefinition {fresh : StubId} {d : MappingDefinition} {m : StubMapping} (h : d.build fresh = .ok m) :
    Stores (.registerDefinition fresh d) m
  | replaceStub (id : StubId) (m : StubMapping) : Stores (.replaceStub id m) (m.withId id)

/-- If the operation is given a mapping, there was a way to make it. -/
def Operation.GivesMade : Operation → Prop
  | .register m | .replaceStub _ m => m.Made
  | _ => True

/-- What is stored is valid, be it given or built from a definition. -/
theorem Operation.Stores.valid {op : Operation} {m : StubMapping} (h : op.Stores m) (hmade : op.GivesMade) :
    m.Valid := by
  cases h with
  | register => exact StubMapping.Made.valid hmade
  | registerDefinition hbuild => exact MappingDraft.valid_of_build hbuild
  | replaceStub id m => exact (StubMapping.Made.valid hmade).withId id

namespace Registry

/-- The mappings after an operation. A refused operation leaves them as they are. -/
def edit (r : Registry) : Operation → Registry
  | .register m => r.add m
  | .registerDefinition fresh d =>
    match d.build fresh with
    | .ok m => r.add m
    | .error _ => r
  | .replaceStub id m =>
    match r.replace id m with
    | .ok replaced => replaced
    | .error _ => r
  | .removeStub id => (r.remove id).2
  | .clearStubs | .reset => .empty
  | .serve .. | .matchIn .. | .setScenarioState .. | .resetScenario .. | .resetSession _ | .scenarios _
  | .resetScenarios | .evictExpired _ | .evictIdle .. => r

variable {r : Registry} {op : Operation} {m : StubMapping}

/-- What is registered after an operation was registered before or is stored by the operation. -/
theorem mem_edit (h : m ∈ (r.edit op).mappings) : m ∈ r.mappings ∨ op.Stores m := by
  unfold edit at h
  split at h
  case h_1 added =>
    rcases mem_add h with rfl | h
    · exact .inr (.register m)
    · exact .inl h
  case h_2 fresh d =>
    split at h
    case h_1 added hbuild =>
      rcases mem_add h with rfl | h
      · exact .inr (.registerDefinition hbuild)
      · exact .inl h
    case h_2 => exact .inl h
  case h_3 id replacement =>
    split at h
    case h_1 replaced hreplace =>
      rcases mem_replace hreplace h with rfl | h
      · exact .inr (.replaceStub id replacement)
      · exact .inl h
    case h_2 => exact .inl h
  case h_4 id => exact .inl (mem_remove h)
  case h_5 | h_6 => cases h
  all_goals exact .inl h

/-- No operation registers a second mapping under an identifier. -/
theorem nodup_ids_edit (h : r.ids.Nodup) (op : Operation) : (r.edit op).ids.Nodup := by
  unfold edit
  split
  case h_1 added => exact nodup_ids_add h added
  case h_2 =>
    split
    case h_1 added _ => exact nodup_ids_add h added
    case h_2 => exact h
  case h_3 =>
    split
    case h_1 hreplace => exact ids_replace hreplace ▸ h
    case h_2 => exact h
  case h_4 id => exact nodup_ids_remove h id
  case h_5 | h_6 => exact List.nodup_nil
  all_goals exact h

/-- An operation on a session alone leaves the mappings as they are. -/
theorem edit_of_session? {c : EngineConfig} {s : SessionId} (h : op.session? c = some s) : r.edit op = r := by
  cases op with
  | serve | matchIn | setScenarioState | resetScenario | resetSession | scenarios => rfl
  | register | registerDefinition | replaceStub | removeStub | clearStubs | resetScenarios | reset | evictExpired
    | evictIdle => cases h

end Registry

namespace Engine

variable {e : Engine} {m : StubMapping}

/-- **The mappings after an operation.** -/
theorem perform_registry (e : Engine) (now : Instant) (op : Operation) :
    (e.perform now op).2.registry = e.registry.edit op := by
  cases op with
  | serve fresh r => exact (serve_config_registry e now fresh r).2
  | matchIn s r => exact congrArg (·.2.registry) (matchIn_eq e now s r)
  | setScenarioState s name state =>
    rw [perform_setScenarioState]
    split <;> rfl
  | resetScenario s name =>
    rw [perform_resetScenario, perform_setScenarioState]
    split <;> rfl
  | registerDefinition fresh d =>
    rw [perform_registerDefinition]
    dsimp only [Registry.edit]
    cases d.build fresh <;> rfl
  | replaceStub id m =>
    rw [perform_replaceStub]
    dsimp only [Registry.edit]
    cases e.registry.replace id m <;> rfl
  | removeStub id =>
    rw [perform_removeStub]
    cases hget : e.registry.get? id with
    | some m => rfl
    | none =>
      have habsent := Registry.remove_of_not_mem (Registry.get?_eq_none_iff.mp hget)
      exact (congrArg Prod.snd habsent).symm
  | evictExpired reading => exact congrArg (·.registry) (evictExpired_snd e reading)
  | resetSession | scenarios | register | clearStubs | resetScenarios | reset | evictIdle => rfl

theorem step_registry (e : Engine) (c : Call) : (e.step c).registry = e.registry.edit c.operation :=
  perform_registry e c.now c.operation

/-- What is registered after a run was registered before or was stored by a call of the run. -/
theorem mem_mappings_after {calls : List Call} (h : m ∈ (e.after calls).registry.mappings) :
    m ∈ e.registry.mappings ∨ ∃ c ∈ calls, c.operation.Stores m := by
  induction calls generalizing e with
  | nil => exact .inl h
  | cons c rest ih =>
    rcases ih h with hstep | ⟨c', hc', hstores⟩
    · rw [step_registry] at hstep
      rcases Registry.mem_edit hstep with hbefore | hstores
      · exact .inl hbefore
      · exact .inr ⟨c, List.mem_cons_self, hstores⟩
    · exact .inr ⟨c', List.mem_cons_of_mem c hc', hstores⟩

/-- In a run of a new engine that is given mappings only that there was a way to make, every mapping is valid. -/
theorem valid_of_mem_mappings_after {config : EngineConfig} {calls : List Call}
    (hmade : ∀ c ∈ calls, c.operation.GivesMade) (h : m ∈ ((new config).after calls).registry.mappings) : m.Valid := by
  rcases mem_mappings_after h with hnew | ⟨c, hc, hstores⟩
  · cases hnew
  · exact hstores.valid (hmade c hc)

end Engine
end ScenarioStubs
