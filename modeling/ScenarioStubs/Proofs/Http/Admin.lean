import ScenarioStubs.Proofs.Engine.Administration
import ScenarioStubs.Proofs.Http.Server

/-!
# What administrative messages change

An administrative operation is refused, with status 400 or 404, and then changes nothing; or it succeeds, and changes
only what it names (`AdminRoute.Succeeds`, `ends_answerAdmin`). Either way it counts nothing and marks no session
(`AdminRoute.Succeeds.quiet`), sets no cookie (`headers_answerAdmin`), and has no use for a fresh session, in every
engine that operations lead to (`admin_changes_only_what_it_names`).
-/

namespace ScenarioStubs.Http

/-! ## Outcomes -/

/-- What an operation that succeeds replies, and what it changes: listing changes nothing; creating and removing change
the mapping under one identifier; putting a state changes one pair, of the session that the message presents; and each
reset empties what it names. -/
def AdminRoute.Succeeds (e : Engine) (m : Message) (reply : Reply) (e' : Engine) : AdminRoute → Prop
  | .createMapping => ∃ id : StubId, reply = .json 201 (.fields [("id", .text id.render)]) ∧
      Engine.OnlyMapping id e e' ∧ (e'.registry.get? id).isSome = true
  | .listMappings | .listScenarios => reply.status = 200 ∧ e' = e
  | .resetMappings | .reset => reply = .text 200 "" ∧ e' = { e with registry := .empty, store := .empty }
  | .removeMapping segment => ∃ id, Uuid.parse? segment = some id ∧ reply = .text 200 "" ∧
      Engine.OnlyMapping id e e' ∧ (e.registry.get? id).isSome = true ∧ e'.registry.get? id = none
  | .resetScenarios => reply = .text 200 "" ∧ e' = { e with store := .empty }
  | .setScenarioState segment => ∃ name, Percent.decode? segment = some name ∧ reply = .text 200 "" ∧
      Engine.OnlyPair (sessionOf e m) name e e' ∧ (e'.store.peek (sessionOf e m) name).isSome = true

/-- A refused operation changes nothing. -/
def Refused (e : Engine) (reply : Reply) (e' : Engine) : Prop := (reply.status = 400 ∨ reply.status = 404) ∧ e' = e

/-- An operation is refused or succeeds. -/
def AdminRoute.Ends (e : Engine) (m : Message) (route : AdminRoute) (result : Reply × Engine) : Prop :=
  Refused e result.1 result.2 ∨ route.Succeeds e m result.1 result.2

variable {e e' : Engine} {m : Message} {route : AdminRoute} {reply : Reply} {now : Instant} {fresh : StubId}

theorem refused_errorReply (e : Engine) (cause : AdminError) : Refused e (errorReply cause) e := by
  refine ⟨?_, rfl⟩
  unfold errorReply
  split
  · exact .inr rfl
  · exact .inl rfl

namespace AdminRoute.Succeeds

theorem status (h : route.Succeeds e m reply e') : reply.status = 200 ∨ reply.status = 201 := by
  cases route with
  | createMapping =>
    obtain ⟨id, rfl, -⟩ := h
    exact .inr rfl
  | listMappings | listScenarios => exact .inl h.1
  | resetMappings | reset | resetScenarios =>
    obtain ⟨rfl, -⟩ := h
    exact .inl rfl
  | removeMapping segment =>
    obtain ⟨id, -, rfl, -⟩ := h
    exact .inl rfl
  | setScenarioState segment =>
    obtain ⟨name, -, rfl, -⟩ := h
    exact .inl rfl

theorem quiet (h : route.Succeeds e m reply e') : e.Quiet e' := by
  cases route with
  | createMapping =>
    obtain ⟨id, -, honly, -⟩ := h
    exact honly.quiet
  | listMappings | listScenarios =>
    obtain ⟨-, rfl⟩ := h
    exact .refl e'
  | resetMappings | reset | resetScenarios =>
    obtain ⟨-, rfl⟩ := h
    exact Engine.quiet_of_store_empty e _
  | removeMapping segment =>
    obtain ⟨id, -, -, honly, -⟩ := h
    exact honly.quiet
  | setScenarioState segment =>
    obtain ⟨name, -, -, honly, -⟩ := h
    exact honly.quiet

end AdminRoute.Succeeds

/-! ## The operations one by one -/

theorem ends_createMapping : AdminRoute.createMapping.Ends e m (answerAdmin e now fresh m .createMapping) := by
  unfold answerAdmin
  dsimp only
  split
  case h_1 => exact .inl ⟨.inl rfl, rfl⟩
  case h_2 definition _ =>
    split
    case h_1 id e' hregister =>
      obtain ⟨mapping, -, rfl, rfl⟩ := Engine.registerDefinition_eq_ok hregister
      refine .inr ⟨mapping.id, rfl, Engine.onlyMapping_register e mapping, ?_⟩
      rw [Engine.register, Registry.get?_add, if_pos rfl]
      rfl
    case h_2 cause _ => exact .inl (refused_errorReply e cause)

theorem ends_removeMapping (hnodup : e.registry.ids.Nodup) (segment : String) :
    (AdminRoute.removeMapping segment).Ends e m (answerAdmin e now fresh m (.removeMapping segment)) := by
  unfold answerAdmin
  dsimp only
  split
  case h_1 => exact .inl ⟨.inl rfl, rfl⟩
  case h_2 id hid =>
    split
    case h_1 mapping e' hremove =>
      obtain ⟨honly, hget, hgone⟩ := Engine.onlyMapping_removeStub hnodup hremove
      exact .inr ⟨id, hid, rfl, honly, hget ▸ rfl, hgone⟩
    case h_2 cause _ => exact .inl (refused_errorReply e cause)

theorem ends_setScenarioState (segment : String) :
    (AdminRoute.setScenarioState segment).Ends e m (answerAdmin e now fresh m (.setScenarioState segment)) := by
  rw [answerAdmin_setScenarioState]
  split
  case h_1 => exact .inl ⟨.inl rfl, rfl⟩
  case h_2 state _ =>
    split
    case h_1 => exact .inl ⟨.inl rfl, rfl⟩
    case h_2 name hname =>
      split
      case h_1 e' hset =>
        obtain ⟨honly, hstored⟩ := Engine.onlyPair_setScenarioState hset
        exact .inr ⟨name, hname, rfl, honly, hstored ▸ rfl⟩
      case h_2 cause _ => exact .inl (refused_errorReply e cause)

/-- Every operation is refused and changes nothing, or succeeds and changes what it names. -/
theorem ends_answerAdmin (hnodup : e.registry.ids.Nodup) (now : Instant) (fresh : StubId) (m : Message)
    (route : AdminRoute) :
    route.Ends e m (answerAdmin e now fresh m route) := by
  cases route with
  | createMapping => exact ends_createMapping
  | removeMapping segment => exact ends_removeMapping hnodup segment
  | setScenarioState segment => exact ends_setScenarioState segment
  | listMappings | listScenarios | resetMappings | reset | resetScenarios => exact .inr ⟨rfl, rfl⟩

/-- Every reply of administration says nothing but the type of its body in its headers. -/
theorem headers_answerAdmin (e : Engine) (now : Instant) (fresh : StubId) (m : Message) (route : AdminRoute) :
    ∃ type, (answerAdmin e now fresh m route).1.headers = [("content-type", type)] := by
  cases route with
  | createMapping =>
    unfold answerAdmin
    dsimp only
    split
    · exact ⟨_, rfl⟩
    · split <;> exact ⟨_, rfl⟩
  | removeMapping segment =>
    unfold answerAdmin
    dsimp only
    split
    · exact ⟨_, rfl⟩
    · split <;> exact ⟨_, rfl⟩
  | setScenarioState segment =>
    rw [answerAdmin_setScenarioState]
    split
    · exact ⟨_, rfl⟩
    · split
      · exact ⟨_, rfl⟩
      · split <;> exact ⟨_, rfl⟩
  | listMappings | listScenarios | resetMappings | reset | resetScenarios => exact ⟨_, rfl⟩

/-- **Administration changes only what it names, and nothing when it fails.** In every engine that operations lead to,
an administrative message changes no setting and no counter, has no use for a fresh session, marks no session and sets
no cookie. With status 400 or 404 it changes nothing at all, and neither does listing. Otherwise its status is 200 or
201, and it changes what its operation names. -/
theorem admin_changes_only_what_it_names (c : EngineConfig) (calls : List Call) (now : Instant) (fresh : Fresh)
    {m : Message} {route : AdminRoute} (hroute : AdminRoute.ofMessage? m = some route) :
    let e := (Engine.new c).after calls
    let reply := (answer e now fresh m).1
    let e' := (answer e now fresh m).2
    (e'.config = e.config ∧ e'.stats = e.stats ∧ (∀ s, e'.store.isMinted s = true → e.store.isMinted s = true)) ∧
      (∀ s, answer e now { fresh with session := s } m = answer e now fresh m) ∧
      (∀ h ∈ reply.headers, h.1 ≠ "set-cookie") ∧
      (reply.status = 400 ∨ reply.status = 404 → e' = e) ∧
      (route = .listMappings ∨ route = .listScenarios → e' = e) ∧
      (reply.status ≠ 400 → reply.status ≠ 404 →
        (reply.status = 200 ∨ reply.status = 201) ∧ route.Succeeds e m reply e') := by
  intro e reply e'
  have hanswer : ∀ s, answer e now ⟨s, fresh.stub⟩ m = answerAdmin e now fresh.stub m route := by
    intro s
    unfold answer
    rw [hroute]
  have hends : route.Ends e m (reply, e') := by
    have hends := ends_answerAdmin (Engine.nodup_ids_after c calls) now fresh.stub m route
    rw [← hanswer fresh.session] at hends
    exact hends
  have hquiet : e.Quiet e' := by
    rcases hends with ⟨-, hsame⟩ | hsucceeds
    · exact hsame ▸ .refl e
    · exact hsucceeds.quiet
  refine ⟨⟨hquiet.config, hquiet.stats, hquiet.marks⟩, fun s => ?_, fun h hh => ?_, fun hstatus => ?_,
    fun hlist => ?_, fun hbad hmissing => ?_⟩
  · exact (hanswer s).trans (hanswer fresh.session).symm
  · obtain ⟨type, htype⟩ := headers_answerAdmin e now fresh.stub m route
    rw [← hanswer fresh.session] at htype
    have hh : h ∈ [("content-type", type)] := htype ▸ hh
    have hdiffer : "content-type" ≠ "set-cookie" := by decide
    rw [List.mem_singleton.mp hh]
    exact hdiffer
  · rcases hends with ⟨-, hsame⟩ | hsucceeds
    · exact hsame
    · rcases hsucceeds.status with h | h <;> rw [h] at hstatus <;> exact absurd hstatus (by decide)
  · rcases hends with ⟨-, hsame⟩ | hsucceeds
    · exact hsame
    · rcases hlist with rfl | rfl <;> exact hsucceeds.2
  · rcases hends with ⟨hstatus, -⟩ | hsucceeds
    · exact absurd hstatus (not_or.mpr ⟨hbad, hmissing⟩)
    · exact ⟨hsucceeds.status, hsucceeds⟩

/-- A registered mapping is removed by its identifier. -/
theorem admin_changes_only_what_it_names_of_delete :
    let id : StubId := ⟨0xf47ac10b58cc4372a5670e02b2c3d479⟩
    let m : Message := {
      method := "DELETE", target := ⟨"/__admin/mappings/f47ac10b-58cc-4372-a567-0e02b2c3d479", none⟩ }
    let route := AdminRoute.removeMapping "f47ac10b-58cc-4372-a567-0e02b2c3d479"
    let fresh : Fresh := ⟨⟨"f", by decide⟩, ⟨2⟩⟩
    let e := (Engine.new {}).after [⟨⟨0⟩, .register ⟨id, 5, .always, none, .ofStatus 200⟩⟩]
    AdminRoute.ofMessage? m = some route ∧ (answer e ⟨1⟩ fresh m).1.status = 200 ∧
      route.Succeeds e m (answer e ⟨1⟩ fresh m).1 (answer e ⟨1⟩ fresh m).2 ∧
      (answer e ⟨1⟩ fresh m).2.stats = e.stats := by
  intro id m route fresh e
  have hroute : AdminRoute.ofMessage? m = some route := by decide +kernel
  have hstatus : (answer e ⟨1⟩ fresh m).1.status = 200 := by decide +kernel
  obtain ⟨⟨-, hstats, -⟩, -, -, -, -, hsucceeds⟩ := admin_changes_only_what_it_names {}
    [⟨⟨0⟩, .register ⟨id, 5, .always, none, .ofStatus 200⟩⟩] ⟨1⟩ fresh hroute
  have hdone := hsucceeds (by rw [hstatus]; decide) (by rw [hstatus]; decide)
  exact ⟨hroute, hstatus, hdone.2, hstats⟩

end ScenarioStubs.Http
