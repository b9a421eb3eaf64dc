import ScenarioStubs.Proofs.Engine.Stamps
import ScenarioStubs.Proofs.Http.Run
import ScenarioStubs.Proofs.Http.Session
import ScenarioStubs.Proofs.Store.Effect

/-!
# Who adopts a minted session

A stub request adopts the session that it presents, which is then no longer marked (`not_isMinted_of_stub`). An
administrative message acts on the session that it presents, but does not adopt it: short of a reset, administration
leaves the mark of every session as it is (`isMinted_answerAdmin`). So a session that its client uses for administration
alone keeps the lifetime of a minted one: `only_stub_requests_adopt`.
-/

namespace ScenarioStubs.Http

/-- The operation drops the states of all sessions. -/
def AdminRoute.isReset : AdminRoute → Bool
  | .resetMappings | .reset | .resetScenarios => true
  | _ => false

variable {e : Engine} {m : Message} {s : SessionId} {now : Instant} {fresh : Fresh}

/-- A stub request adopts the session that it presents. -/
theorem not_isMinted_of_stub (haware : e.config.sessions.sessionAware = true) (h : Presents e.config.sessions m s)
    (hstub : AdminRoute.ofMessage? m = none) : (answer e now fresh m).2.store.isMinted s = false := by
  have hpresented : (Operation.serve fresh.session m.toRequest).presented? e.config = some s :=
    (if_pos haware).trans (presented?_of_presents h)
  rw [answer_of_stub hstub]
  dsimp only
  obtain ⟨t, ht, -, hstore⟩ | ⟨hnone, -⟩ | ⟨hnone, -⟩ := e.serve_cases now fresh.session m.toRequest
  · obtain rfl : t = s := Option.some.inj (ht.symm.trans hpresented)
    rw [hstore, ← Bool.not_eq_true]
    exact fun hminted => (Store.isMinted_adopt.mp hminted).1 rfl
  · cases hnone.symm.trans hpresented
  · cases hnone.symm.trans hpresented

/-- Short of a reset, administration leaves the mark of every session as it is. -/
theorem isMinted_answerAdmin {route : AdminRoute} (h : route.isReset = false) (fresh : StubId) :
    (answerAdmin e now fresh m route).2.store.isMinted s = e.store.isMinted s := by
  have hedits : ∀ op : Operation, op.editsMappings = true →
      (e.perform now op).2.store.isMinted s = e.store.isMinted s :=
    fun op hop => congrArg (·.isMinted s) (e.store_perform_of_editsMappings now hop)
  rw [answerAdmin_snd]
  cases hop : route.operation? e.config fresh m with
  | none => rfl
  | some op =>
    rw [Option.elim_some]
    cases route with
    | resetMappings | reset | resetScenarios => cases h
    | listMappings => cases hop
    | listScenarios =>
      cases hop
      rfl
    | createMapping =>
      obtain ⟨d, -, rfl⟩ := Option.map_eq_some_iff.mp hop
      exact hedits (.registerDefinition fresh d) rfl
    | removeMapping segment =>
      obtain ⟨id, -, rfl⟩ := Option.map_eq_some_iff.mp hop
      exact hedits (.removeStub id) rfl
    | setScenarioState segment =>
      obtain ⟨state, -, hname⟩ := Option.bind_eq_some_iff.mp hop
      obtain ⟨name, -, rfl⟩ := Option.map_eq_some_iff.mp hname
      rw [Engine.perform_setScenarioState]
      split
      · exact Store.isMinted_setState e.store _ s now name _
      · rfl

/-- **Only stub requests adopt.** Take a server that tells sessions apart, after any run of exchanges, and let a message
present a session and not reset all of them. It acts on that session. Afterwards the session is marked exactly if the
message was administrative and the session was marked before; it is then that, once idle for longer than some span, it
is dropped with the minted sessions that have been. -/
theorem only_stub_requests_adopt (e : Engine) (haware : e.config.sessions.sessionAware = true) (xs : List Exchange)
    (x : Exchange) {s : SessionId} (hpresents : Presents e.config.sessions x.message s)
    (hroute : ∀ route, AdminRoute.ofMessage? x.message = some route → route.isReset = false) :
    let before := after e xs
    let e' := step before x
    (AdminRoute.ofMessage? x.message = none → (before.resolveSession x.fresh.session x.message.toRequest).id = s) ∧
      (AdminRoute.ofMessage? x.message ≠ none → sessionOf before x.message = s) ∧
      (e'.store.isMinted s = true ↔ AdminRoute.ofMessage? x.message ≠ none ∧ before.store.isMinted s = true) ∧
      ∀ now reading limit, e'.store.Removes now s (.evictMinted reading limit) ↔
        (AdminRoute.ofMessage? x.message ≠ none ∧ before.store.isMinted s = true) ∧
          ∃ seen, e'.store.lastSeen? s = some seen ∧ limit.nanos < (reading.since seen).nanos := by
  intro before e'
  have hconfig : before.config = e.config := after_config xs
  have haware' : before.config.sessions.sessionAware = true := hconfig ▸ haware
  have hpresents' : Presents before.config.sessions x.message s := hconfig ▸ hpresents
  have hmark : e'.store.isMinted s = true ↔
      AdminRoute.ofMessage? x.message ≠ none ∧ before.store.isMinted s = true := by
    cases hstub : AdminRoute.ofMessage? x.message with
    | none =>
      have hadopted : e'.store.isMinted s = false := not_isMinted_of_stub haware' hpresents' hstub
      rw [hadopted]
      exact ⟨fun h => (nomatch h), fun h => absurd rfl h.1⟩
    | some route =>
      have hkept : e'.store.isMinted s = before.store.isMinted s := by
        show (answer before x.now x.fresh x.message).2.store.isMinted s = _
        unfold answer
        rw [hstub]
        exact isMinted_answerAdmin (hroute route hstub) x.fresh.stub
      rw [hkept]
      exact ⟨fun h => ⟨Option.some_ne_none route, h⟩, And.right⟩
  refine ⟨fun _ => (resolveSession_of_presents haware' hpresents' _).1,
    fun _ => sessionOf_of_presents haware' hpresents', hmark, fun now reading limit => ?_⟩
  rw [Store.removes_evictMinted_iff, hmark]

/-- The session `m` was minted for a request; its client puts a scenario into a state, with the cookie that it was
handed out, and the session stays marked. -/
theorem only_stub_requests_adopt_of_put :
    let m : SessionId := ⟨"m", by decide⟩
    let gate : StubMapping := ⟨⟨1⟩, 5, .always, some ⟨"S", some "Started", some "Seen"⟩, .ofStatus 201⟩
    let e := (Engine.new {}).register gate
    let anonymous : Exchange := ⟨⟨0⟩, ⟨m, ⟨2⟩⟩, { method := "GET", target := ⟨"/x", none⟩ }⟩
    let put : Exchange := ⟨⟨1⟩, ⟨⟨"f", by decide⟩, ⟨3⟩⟩, {
      method := "PUT", target := ⟨"/__admin/scenarios/S/state", none⟩,
      headers := [("cookie", Utf8.encode "WireMockSessionId=m")], body := Utf8.encode "\x7b\"state\":\"Open\"\x7d" }⟩
    let e' := step (after e [anonymous]) put
    (e.config.sessions.sessionAware = true ∧ Presents e.config.sessions put.message m ∧
        AdminRoute.ofMessage? put.message = some (.setScenarioState "S")) ∧
      sessionOf (after e [anonymous]) put.message = m ∧ e'.store.isMinted m = true ∧
      ∀ now reading limit, e'.store.Removes now m (.evictMinted reading limit) ↔
        ∃ seen, e'.store.lastSeen? m = some seen ∧ limit.nanos < (reading.since seen).nanos := by
  intro m gate e anonymous put e'
  have hheader : put.message.requestHeaders.get? "X-WireMock-Session-Id" = none := by decide +kernel
  have hpresents : Presents e.config.sessions put.message m :=
    .inr ⟨fun _ htoken => (nomatch hheader.symm.trans htoken), by decide +kernel⟩
  have hput : AdminRoute.ofMessage? put.message = some (.setScenarioState "S") := by decide
  have hadmin : AdminRoute.ofMessage? put.message ≠ none := hput ▸ Option.some_ne_none _
  have hroute : ∀ route, AdminRoute.ofMessage? put.message = some route → route.isReset = false := by
    intro route h
    cases hput.symm.trans h
    rfl
  obtain ⟨-, hsession, hmark, hremoves⟩ := only_stub_requests_adopt e rfl [anonymous] put hpresents hroute
  have hbefore : (after e [anonymous]).store.isMinted m = true := by decide +kernel
  refine ⟨⟨rfl, hpresents, hput⟩, hsession hadmin, hmark.mpr ⟨hadmin, hbefore⟩, fun now reading limit => ?_⟩
  exact (hremoves now reading limit).trans (and_iff_right ⟨hadmin, hbefore⟩)

/-- The client of the session `m`, which was minted for it, puts a scenario into a state and asks for the scenarios,
each time with the cookie that it was handed out. The session stays marked, and the sweep that comes when the lifetime
of minted sessions is over takes the state that the client had put. -/
theorem adopted_by_neither_put_nor_get :
    let m : SessionId := ⟨"m", by decide⟩
    let gate : StubMapping := ⟨⟨1⟩, 5, .always, some ⟨"S", some "Started", some "Seen"⟩, .ofStatus 201⟩
    let e := (Engine.new {}).register gate
    let anonymous : Exchange := ⟨⟨0⟩, ⟨m, ⟨2⟩⟩, { method := "GET", target := ⟨"/x", none⟩ }⟩
    let cookie := [("cookie", Utf8.encode "WireMockSessionId=m")]
    let put : Exchange := ⟨⟨1⟩, ⟨⟨"f", by decide⟩, ⟨3⟩⟩, {
      method := "PUT", target := ⟨"/__admin/scenarios/S/state", none⟩, headers := cookie,
      body := Utf8.encode "\x7b\"state\":\"Open\"\x7d" }⟩
    let get : Exchange := ⟨⟨2⟩, ⟨⟨"g", by decide⟩, ⟨4⟩⟩, {
      method := "GET", target := ⟨"/__admin/scenarios", none⟩, headers := cookie }⟩
    let swept := ((after e [anonymous, put, get]).evictExpired ⟨301000000000⟩).2
    (e.config.sessions.sessionAware = true ∧ Presents e.config.sessions put.message m ∧
        Presents e.config.sessions get.message m) ∧
      (after e [anonymous, put]).store.isMinted m = true ∧ (after e [anonymous, put, get]).store.isMinted m = true ∧
      (after e [anonymous, put, get]).store.peek m "S" = some "Open" ∧ swept.store.peek m "S" = none := by
  intro m gate e anonymous cookie put get swept
  have hheader : put.message.requestHeaders.get? "X-WireMock-Session-Id" = none := by decide +kernel
  have hpresents : Presents e.config.sessions put.message m :=
    .inr ⟨fun _ htoken => (nomatch hheader.symm.trans htoken), by decide +kernel⟩
  exact ⟨⟨rfl, hpresents, hpresents⟩, by decide +kernel, by decide +kernel, by decide +kernel, by decide +kernel⟩

end ScenarioStubs.Http
