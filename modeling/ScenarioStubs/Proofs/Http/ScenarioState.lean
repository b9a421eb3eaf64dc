import ScenarioStubs.Proofs.Engine.Administration
import ScenarioStubs.Proofs.Engine.Anonymous
import ScenarioStubs.Proofs.Engine.Isolation
import ScenarioStubs.Proofs.Http.Percent
import ScenarioStubs.Proofs.Http.Server
import ScenarioStubs.Proofs.Json.Record
import ScenarioStubs.Proofs.Text.Split

/-!
# Putting scenarios into a state by messages

A message puts a scenario into a state if its path names the scenario, percent-encoded as one segment
(`ofMessage?_stateMessage`), and its body asks for the state (`Asks`, `requestedState?_of_asks`). It acts on the session
that a stub request with the same headers belongs to, unless such a request would have its session minted
(`resolveSession_of_not_anonymous`). So what is put by one message is listed by another and decides what the next stub
request with these headers is answered with (`put_state_listed_and_matched`).
-/

namespace ScenarioStubs

/-! ## The session of a message -/

/-- A request that would not have its session minted belongs to the same session for administration and for matching,
whatever identifier is at hand for a new one. -/
theorem Engine.resolveSession_of_not_anonymous {e : Engine} {r : Request} (h : ¬e.config.sessions.Anonymous r)
    (fresh : SessionId) :
    (e.resolveSession fresh r).id = e.resolver.resolvePresented r.headers r.cookies ∧
      (e.resolveSession fresh r).isEphemeral = false := by
  unfold resolveSession
  obtain ⟨p, haware, hp, hresolve⟩ | ⟨haware, hp, -⟩ | ⟨haware, hresolve⟩ :=
    e.resolver.resolve_cases fresh r.headers r.cookies
  · rw [hresolve, (Resolver.resolve_of_presented haware hp fresh).2]
    exact ⟨rfl, Resolver.not_isEphemeral_of_presented? hp⟩
  · obtain ⟨hheader, hcookie⟩ := Resolver.presented?_eq_none_iff.mp hp
    exact absurd ⟨haware, hheader, hcookie⟩ h
  · rw [hresolve, (Resolver.resolve_of_unaware haware fresh r.headers r.cookies).2]
    exact ⟨rfl, rfl⟩

namespace Http

/-! ## Paths -/

/-- The path under which the state of a scenario is put. -/
def statePath (segment : List Char) : String := "/__admin/scenarios/" ++ String.ofList segment ++ "/state"

/-- The path under which scenarios are listed. -/
def scenariosPath : String := "/__admin/scenarios"

theorem segments_statePath {segment : List Char} (hslash : '/' ∉ segment) {t : Target}
    (hpath : t.path = statePath segment) : t.segments = ["__admin", "scenarios", String.ofList segment, "state"] := by
  have hlist : t.path.toList.drop 1 = "__admin".toList ++ '/' :: ("scenarios".toList ++ '/' ::
      (segment ++ '/' :: "state".toList)) := by
    rw [hpath]
    unfold statePath
    simp
  have hparts : Text.splitAll '/' (t.path.toList.drop 1) =
      ["__admin".toList, "scenarios".toList, segment, "state".toList] := by
    rw [hlist, Text.splitAll_append_cons (by decide), Text.splitAll_append_cons (by decide),
      Text.splitAll_append_cons hslash, Text.splitAll_of_not_mem (by decide)]
  unfold Target.segments
  rw [hparts]
  simp

variable {m : Message}

/-- A path with one segment that is not empty in the place of the name puts the state of a scenario. -/
theorem ofMessage?_stateMessage {segment : List Char} (hslash : '/' ∉ segment) (hne : segment ≠ [])
    (hmethod : m.method = "PUT") (hpath : m.target.path = statePath segment) :
    AdminRoute.ofMessage? m = some (.setScenarioState (String.ofList segment)) := by
  have hname : String.ofList segment ≠ "" := fun h => hne (by rw [← String.toList_ofList (l := segment), h]; rfl)
  unfold AdminRoute.ofMessage?
  rw [hmethod, segments_statePath hslash hpath]
  exact if_neg hname

theorem ofMessage?_scenariosMessage (hmethod : m.method = "GET") (hpath : m.target.path = scenariosPath) :
    AdminRoute.ofMessage? m = some .listScenarios := by
  have hsegments : m.target.segments = ["__admin", "scenarios"] := by
    unfold Target.segments
    rw [hpath]
    rfl
  unfold AdminRoute.ofMessage?
  rw [hmethod, hsegments]
  rfl

/-! ## Bodies -/

/-- The body asks for a state. An empty body, an object without a state and one with `null` for it ask for the start
state; an object with one state that is a text asks for that. -/
inductive Asks : Bytes → String → Prop
  | empty : Asks [] startState
  | absent {body : Bytes} {fs : List (String × Json)} (h : Json.parseBytes? body = some (.fields fs))
    (hstate : fs.filter (·.1 == "state") = []) : Asks body startState
  | null {body : Bytes} {fs : List (String × Json)} (h : Json.parseBytes? body = some (.fields fs))
    (hstate : fs.filter (·.1 == "state") = [("state", .null)]) : Asks body startState
  | text {body : Bytes} {fs : List (String × Json)} {v : String} (h : Json.parseBytes? body = some (.fields fs))
    (hstate : fs.filter (·.1 == "state") = [("state", .text v)]) : Asks body v

/-- The object that is written for a state asks for it. -/
theorem asks_render (v : String) : Asks (Utf8.encode (Json.fields [("state", .text v)]).render) v := by
  have hplain : (Json.fields [("state", .text v)]).Plain := .fields fun f hf => by
    rw [List.mem_singleton.mp hf]
    exact .text v
  have hone : [("state", Json.text v)].filter (·.1 == "state") = [("state", .text v)] := rfl
  refine .text ?_ hone
  rw [Json.parseBytes?_encode]
  exact Json.parse?_render hplain

theorem recordOf?_state {fs : List (String × Json)} {found : List (String × Json)}
    (hstate : fs.filter (·.1 == "state") = found) (hone : (found.map (·.1)).Nodup) :
    Record.of? ["state"] (Json.fields fs) = some ⟨found⟩ := by
  have hknown : fs.filter (fun f => ["state"].contains f.1) = found := by
    rw [← hstate]
    exact List.filter_congr fun f _ => by simp [Bool.beq_eq_decide_eq]
  unfold Record.of?
  rw [Json.fields?_fields]
  simp only [hknown]
  exact if_pos hone

/-- A body that asks for a state is read as asking for it. -/
theorem requestedState?_of_asks {body : Bytes} {v : String} (h : Asks body v) :
    ∃ state, requestedState? body = some state ∧ state.getD startState = v := by
  have hread : ∀ {fs found state}, Json.parseBytes? body = some (.fields fs) →
      fs.filter (·.1 == "state") = found → (found.map (·.1)).Nodup →
      (⟨found⟩ : Record Json).field? "state" (Document.optional? Document.text?) none = some state →
      requestedState? body = some state := by
    intro fs found state hparse hstate hone hfield
    have hfilled : body.isEmpty = false := by
      cases body with
      | nil => cases hparse
      | cons => rfl
    unfold requestedState?
    simp only [hfilled, hparse, recordOf?_state hstate hone, Option.bind_eq_bind, Option.bind_some]
    exact hfield
  cases h with
  | empty => exact ⟨none, rfl, rfl⟩
  | absent hparse hstate => exact ⟨none, hread hparse hstate List.nodup_nil rfl, rfl⟩
  | null hparse hstate => exact ⟨none, hread hparse hstate (List.nodup_singleton _) rfl, rfl⟩
  | text hparse hstate => exact ⟨some v, hread hparse hstate (List.nodup_singleton _) rfl, rfl⟩

/-! ## Messages with the same headers -/

variable {m' : Message} {e e' : Engine} {now : Instant} {fresh : Fresh} {s : SessionId} {n v : String}

theorem requestHeaders_congr (h : m.headers = m'.headers) : m.requestHeaders = m'.requestHeaders := by
  unfold Message.requestHeaders
  rw [h]

theorem sessionOf_congr (hconfig : e.config = e'.config) (h : m.headers = m'.headers) :
    sessionOf e m = sessionOf e' m' := by
  unfold sessionOf Engine.resolver
  rw [requestHeaders_congr h, hconfig]

/-- Unless it would be minted, the session of a stub request is the one that administration acts on for a message with
the same headers. -/
theorem resolveSession_eq_sessionOf (hconfig : e'.config = e.config) (h : m'.headers = m.headers)
    (hsession : ¬e.config.sessions.Anonymous m.toRequest) (fresh : SessionId) :
    (e'.resolveSession fresh m'.toRequest).id = sessionOf e m ∧
      (e'.resolveSession fresh m'.toRequest).isEphemeral = false := by
  have hsession' : ¬e'.config.sessions.Anonymous m'.toRequest := by
    rintro ⟨haware, hheader, hcookie⟩
    have hrequest : m'.requestHeaders = m.requestHeaders := requestHeaders_congr h
    change ∀ token, m'.requestHeaders.get? _ = some token → token = "" at hheader
    change ∀ token, (Cookies.ofHeaders m'.requestHeaders).get? _ = some token → token = "" at hcookie
    rw [hconfig] at haware hheader hcookie
    rw [hrequest] at hheader hcookie
    exact hsession ⟨haware, hheader, hcookie⟩
  obtain ⟨hid, hkept⟩ := Engine.resolveSession_of_not_anonymous hsession' fresh
  exact ⟨hid.trans (sessionOf_congr hconfig h), hkept⟩

/-! ## Answers -/

/-- A message that names a known scenario and asks for a state puts the scenario of its session into that state. -/
theorem answer_stateMessage {segment : List Char} (hmethod : m.method = "PUT")
    (hpath : m.target.path = statePath segment) (hsegment : Percent.Encodes segment (Utf8.encode n))
    (hne : n ≠ "") (hbody : Asks m.body v) (hknown : e.registry.knowsScenario n = true) :
    answer e now fresh m = (.text 200 "", { e with store := e.store.setState now (sessionOf e m) n v }) := by
  have hslash : '/' ∉ segment := hsegment.not_mem (by decide) (by decide)
  have hbytes : Utf8.encode n ≠ [] := fun h => hne (by rw [← Utf8.decodeLossy_encode n, h]; rfl)
  have hroute := ofMessage?_stateMessage hslash (hsegment.ne_nil hbytes) hmethod hpath
  obtain ⟨state, hstate, rfl⟩ := requestedState?_of_asks hbody
  unfold answer
  rw [hroute]
  dsimp only
  rw [answerAdmin_setScenarioState, hstate]
  simp only [Percent.decode?_of_encodes hsegment, Engine.setScenarioState_of_known hknown]

theorem answer_scenariosMessage (hmethod : m.method = "GET") (hpath : m.target.path = scenariosPath) :
    answer e now fresh m = (.json 200 (.fields
      [("scenarios", .array ((e.scenarios (sessionOf e m)).map ScenarioSummary.toJson))]), e) := by
  unfold answer
  rw [ofMessage?_scenariosMessage hmethod hpath]
  rfl

/-- A mapping bound to a scenario is eligible exactly if it admits the request and requires no other state. -/
theorem eligible_iff_of_effectiveState {st : Store} {r : Request} (hstate : st.effectiveState s n = v)
    {mapping : StubMapping} {rule : ScenarioRule} (hscenario : mapping.scenario = some rule) (hname : rule.name = n) :
    mapping.Eligible st s r ↔ mapping.predicate.evaluate r = .ok true ∧
      ∀ required, rule.requiredState = some required → required = v := by
  unfold StubMapping.Eligible
  rw [hscenario]
  constructor
  · rintro ⟨hadmits, hgate⟩
    exact ⟨hadmits, fun required hrequired => (hgate rule rfl required hrequired).symm.trans (hname ▸ hstate)⟩
  · rintro ⟨hadmits, hrequires⟩
    refine ⟨hadmits, fun rule' hrule' required hrequired => ?_⟩
    cases hrule'
    rw [hrequires required hrequired, hname, hstate]

/-- **A state that is put is listed, and decides what is matched.** Let a message name a known scenario, ask for a
state, and have headers with which a stub request would not have its session minted. It is answered with status 200, and
puts that scenario of the session of such a stub request into that state, and nothing else changes. As long as that
session, the mappings and the settings stay as they are then, a message with the same headers that asks for the
scenarios is answered with a list in which the scenario comes once, in that state, and any other message with these
headers that is no administrative operation is answered in that session, by the best of the mappings there: of those
bound to the scenario, exactly those that admit the request and require no other state are eligible. -/
theorem put_state_listed_and_matched (e : Engine) (now : Instant) (fresh : Fresh) {put : Message} {segment : List Char}
    {n v : String} (hmethod : put.method = "PUT") (hpath : put.target.path = statePath segment)
    (hsegment : Percent.Encodes segment (Utf8.encode n)) (hne : n ≠ "") (hbody : Asks put.body v)
    (hknown : e.registry.knowsScenario n = true) (hsession : ¬e.config.sessions.Anonymous put.toRequest) :
    ∃ s e', answer e now fresh put = (.text 200 "", e') ∧
      (∀ m : Message, m.headers = put.headers → ∀ fresh, (e.resolveSession fresh m.toRequest).id = s) ∧
      Engine.OnlyPair s n e e' ∧ e'.store.peek s n = some v ∧
      ∀ later : Engine, Engine.AgreeOn s e' later →
        ∀ (now' : Instant) (fresh' : Fresh) (m : Message), m.headers = put.headers →
          (m.method = "GET" → m.target.path = scenariosPath → ∃ summaries : List ScenarioSummary,
            answer later now' fresh' m =
              (.json 200 (.fields [("scenarios", .array (summaries.map ScenarioSummary.toJson))]), later) ∧
            summaries.filter (·.name == n) = [⟨n, v, e.registry.possibleStates n⟩]) ∧
          (AdminRoute.ofMessage? m = none →
            (later.resolveSession fresh'.session m.toRequest).id = s ∧
            later.store.effectiveState s n = v ∧
            (answer later now' fresh' m).1 = .ofStub (later.matchIn now' s m.toRequest).1 ∧
            (∀ stub, (later.matchIn now' s m.toRequest).1 = some stub ↔
              ∃ i mapping, later.IsBest s m.toRequest i mapping ∧ stub = ⟨mapping.id, mapping.response⟩) ∧
            ∀ (mapping : StubMapping) (rule : ScenarioRule), mapping.scenario = some rule → rule.name = n →
              (mapping.Eligible later.store s m.toRequest ↔ mapping.predicate.evaluate m.toRequest = .ok true ∧
                ∀ required, rule.requiredState = some required → required = v)) := by
  have hput := Engine.setScenarioState_of_known hknown now (sessionOf e put) v
  obtain ⟨honly, hstored⟩ := Engine.onlyPair_setScenarioState hput
  refine ⟨sessionOf e put, _, answer_stateMessage hmethod hpath hsegment hne hbody hknown, fun m hm fresh => ?_, honly,
    hstored, fun later hagree now' fresh' m hm => ⟨fun hget hlist => ?_, fun hstub => ?_⟩⟩
  · exact (resolveSession_eq_sessionOf rfl hm hsession fresh).1
  all_goals
    have hconfig : later.config = e.config := hagree.config.symm.trans honly.config
    have hstate : later.store.effectiveState (sessionOf e put) n = v := by
      rw [← hagree.effectiveState, Store.effectiveState, hstored]
      rfl
  · have hknown' : later.registry.knowsScenario n = true := hagree.registry ▸ hknown
    have hlisted := Engine.filter_scenarios hknown' (sessionOf e put)
    rw [hstate, ← hagree.registry] at hlisted
    refine ⟨later.scenarios (sessionOf e put), ?_, hlisted⟩
    rw [answer_scenariosMessage hget hlist, sessionOf_congr hconfig hm]
  · obtain ⟨hid, hkept⟩ := resolveSession_eq_sessionOf hconfig hm hsession fresh'.session
    refine ⟨hid, hstate, ?_, fun _ => Engine.matchIn_fst_eq_some_iff, fun _ _ => eligible_iff_of_effectiveState hstate⟩
    rw [answer_of_stub hstub, Engine.serve_eq, renderEvent_of_kept hkept]
    dsimp only
    rw [hid]

/-- The door of session `a`, which the second of two `Cookie` headers presents, is closed by a message and found closed
by the next. -/
theorem put_state_listed_and_matched_of_door :
    let closed : StubMapping := ⟨⟨1⟩, 5, .always, some ⟨"tür", some "zu", none⟩, .ofStatus 423⟩
    let e := (Engine.new {}).register closed
    let put : Message := {
      method := "PUT", target := ⟨"/__admin/scenarios/t%C3%BCr/state", none⟩,
      headers := [("cookie", Utf8.encode "lang=de"), ("cookie", Utf8.encode "WireMockSessionId=a")],
      body := Utf8.encode (Json.fields [("state", .text "zu")]).render }
    let get : Message := { put with method := "GET", target := ⟨"/", none⟩ }
    let fresh : Fresh := ⟨⟨"f", by decide⟩, ⟨2⟩⟩
    (put.target.path = statePath "t%C3%BCr".toList ∧ Percent.Encodes "t%C3%BCr".toList (Utf8.encode "tür") ∧
        Asks put.body "zu" ∧ e.registry.knowsScenario "tür" = true ∧ ¬e.config.sessions.Anonymous put.toRequest) ∧
      ∃ s e', answer e ⟨0⟩ fresh put = (.text 200 "", e') ∧ e'.store.peek s "tür" = some "zu" ∧
        (e'.resolveSession fresh.session get.toRequest).id = s ∧ e'.store.effectiveState s "tür" = "zu" ∧
        (answer e' ⟨1⟩ fresh get).1 = .ofStub (e'.matchIn ⟨1⟩ s get.toRequest).1 := by
  intro closed e put get fresh
  have hpath : put.target.path = statePath "t%C3%BCr".toList := by decide +kernel
  have hsegment : Percent.Encodes "t%C3%BCr".toList (Utf8.encode "tür") :=
    .literal (by decide) (.escape (by decide) (by decide) (.escape (by decide) (by decide) (.literal (by decide) .nil)))
  have hbody : Asks put.body "zu" := asks_render "zu"
  have hknown : e.registry.knowsScenario "tür" = true := by decide
  have hsession : ¬e.config.sessions.Anonymous put.toRequest := fun h =>
    absurd (h.cookie "a" (by decide +kernel)) (by decide)
  obtain ⟨s, e', hanswer, -, -, hstored, hlater⟩ :=
    put_state_listed_and_matched e ⟨0⟩ fresh rfl hpath hsegment (by decide) hbody hknown hsession
  obtain ⟨-, hmatched⟩ := hlater e' (Engine.AgreeOn.refl s e') ⟨1⟩ fresh get rfl
  obtain ⟨hid, hstate, hreply, -, -⟩ := hmatched (by decide)
  exact ⟨⟨hpath, hsegment, hbody, hknown, hsession⟩, s, e', hanswer, hstored, hid, hstate, hreply⟩

end Http

end ScenarioStubs
