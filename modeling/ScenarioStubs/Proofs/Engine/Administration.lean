import Mathlib.Data.List.Nodup
import ScenarioStubs.Proofs.Engine.Mappings
import ScenarioStubs.Proofs.Engine.Summaries

/-!
# What administration changes

Registering or removing a mapping changes nothing but the mapping under its identifier (`Engine.OnlyMapping`), and
putting a scenario of a session into a state changes nothing but that pair (`Engine.OnlyPair`); neither counts anything
or marks a session (`Engine.Quiet`). Looking at the scenarios shows the state of each of them (`filter_scenarios`). No
operation ever registers two mappings under one identifier (`nodup_ids_after`), so a removed mapping is gone.
-/

namespace ScenarioStubs
namespace Engine

/-- The second engine differs from the first in the mapping under one identifier at most. -/
structure OnlyMapping (id : StubId) (e e' : Engine) : Prop where
  config : e'.config = e.config
  store : e'.store = e.store
  stats : e'.stats = e.stats
  /-- The mappings under other identifiers are the same, in the same order. -/
  others : e'.registry.others id = e.registry.others id

/-- The second engine differs from the first in the state of one pair at most, and in that the session of the pair was
seen. A session is not marked by it, also if it is stored for the first time. -/
structure OnlyPair (s : SessionId) (n : String) (e e' : Engine) : Prop where
  config : e'.config = e.config
  registry : e'.registry = e.registry
  stats : e'.stats = e.stats
  sessions : ∀ t : SessionId, t ≠ s → e'.store.sessions[t]? = e.store.sessions[t]?
  states : ∀ n', n' ≠ n → e'.store.peek s n' = e.store.peek s n'
  mark : e'.store.isMinted s = e.store.isMinted s

/-- Between the two engines nothing is counted and no session is marked. -/
structure Quiet (e e' : Engine) : Prop where
  config : e'.config = e.config
  stats : e'.stats = e.stats
  marks : ∀ s, e'.store.isMinted s = true → e.store.isMinted s = true

variable {e e' : Engine} {now : Instant} {s : SessionId} {n v : String}

theorem Quiet.refl (e : Engine) : Quiet e e := ⟨rfl, rfl, fun _ h => h⟩

theorem OnlyMapping.quiet {id : StubId} (h : OnlyMapping id e e') : Quiet e e' :=
  ⟨h.config, h.stats, fun _ hs => h.store ▸ hs⟩

theorem OnlyPair.quiet (h : OnlyPair s n e e') : Quiet e e' := by
  refine ⟨h.config, h.stats, fun t ht => ?_⟩
  by_cases hts : t = s
  · subst hts
    exact h.mark ▸ ht
  · unfold Store.isMinted at *
    exact h.sessions t hts ▸ ht

/-- Emptying the store marks nothing. -/
theorem quiet_of_store_empty (e : Engine) (registry : Registry) : Quiet e { e with registry, store := .empty } := by
  refine ⟨rfl, rfl, fun s hs => ?_⟩
  unfold Store.isMinted at hs
  rw [Store.sessions_empty] at hs
  cases hs

/-! ## One operation -/

theorem onlyMapping_register (e : Engine) (m : StubMapping) : OnlyMapping m.id e (e.register m) :=
  ⟨rfl, rfl, rfl, e.registry.others_add m⟩

theorem registerDefinition_eq_ok {fresh id : StubId} {d : MappingDefinition}
    (h : e.registerDefinition fresh d = .ok (id, e')) : ∃ m, d.build fresh = .ok m ∧ m.id = id ∧ e' = e.register m := by
  unfold registerDefinition at h
  split at h
  case h_1 m hbuild =>
    cases h
    exact ⟨m, hbuild, rfl, rfl⟩
  case h_2 => cases h

theorem removeStub_eq_ok {id : StubId} {m : StubMapping} (h : e.removeStub id = .ok (m, e')) :
    e.registry.get? id = some m ∧ e' = { e with registry := (e.registry.remove id).2 } := by
  have hget : (e.registry.remove id).1 = e.registry.get? id := rfl
  unfold removeStub at h
  split at h
  case h_1 m' registry hremove =>
    cases h
    rw [← hget, hremove]
    exact ⟨rfl, rfl⟩
  case h_2 => cases h

/-- A removed mapping was registered and is gone. -/
theorem onlyMapping_removeStub {id : StubId} {m : StubMapping} (hnodup : e.registry.ids.Nodup)
    (h : e.removeStub id = .ok (m, e')) :
    OnlyMapping id e e' ∧ e.registry.get? id = some m ∧ e'.registry.get? id = none := by
  obtain ⟨hget, rfl⟩ := removeStub_eq_ok h
  refine ⟨⟨rfl, rfl, rfl, e.registry.others_remove id⟩, hget, ?_⟩
  exact (Registry.get?_remove hnodup id id).trans (if_pos rfl)

theorem setScenarioState_of_known (h : e.registry.knowsScenario n = true) (now : Instant) (s : SessionId) (v : String) :
    e.setScenarioState now s n v = .ok { e with store := e.store.setState now s n v } := if_pos h

/-- A scenario is put into a state if it is known, and then nothing else changes. -/
theorem onlyPair_setScenarioState (h : e.setScenarioState now s n v = .ok e') :
    OnlyPair s n e e' ∧ e'.store.peek s n = some v := by
  unfold setScenarioState at h
  split at h
  case isFalse => cases h
  case isTrue =>
    cases h
    constructor
    · constructor
      case config | registry | stats => rfl
      case sessions => exact fun t ht => Store.sessions_setState_of_ne e.store s ht now n v
      case states =>
        intro n' hn
        exact (Store.peek_setState e.store s s now n v n').trans (if_neg fun hpair => hn hpair.2)
      case mark => exact Store.isMinted_setState e.store s s now n v
    · exact (Store.peek_setState e.store s s now n v n).trans (if_pos ⟨rfl, rfl⟩)

/-- A known scenario is listed once, with its state. -/
theorem filter_scenarios (h : e.registry.knowsScenario n = true) (s : SessionId) :
    (e.scenarios s).filter (·.name == n) = [⟨n, e.store.effectiveState s n, e.registry.possibleStates n⟩] := by
  have hone : e.registry.scenarioNames.filter (· == n) = [n] := by
    rw [List.filter_beq, List.count_eq_one_of_mem (Registry.nodup_scenarioNames _) (Registry.mem_scenarioNames.mpr h)]
    rfl
  rw [scenarios_eq, List.filter_map]
  exact congrArg (List.map _) hone

/-! ## Runs -/

/-- In every engine that operations lead to, no two mappings have the same identifier. -/
theorem nodup_ids_after (c : EngineConfig) (calls : List Call) : ((new c).after calls).registry.ids.Nodup := by
  have hnew : (new c).registry.ids.Nodup := List.nodup_nil
  refine after_preserves (·.registry.ids.Nodup) (fun e call h => ?_) hnew calls
  show (e.step call).registry.ids.Nodup
  rw [step_registry]
  exact Registry.nodup_ids_edit h call.operation

end Engine
end ScenarioStubs
