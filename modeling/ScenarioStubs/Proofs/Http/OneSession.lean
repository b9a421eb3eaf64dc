import ScenarioStubs.Proofs.Engine.Counters
import ScenarioStubs.Proofs.Engine.Eviction
import ScenarioStubs.Proofs.Engine.Forgetting
import ScenarioStubs.Proofs.Http.Admin
import ScenarioStubs.Proofs.Http.Run
import ScenarioStubs.Proofs.Session.Resolver

/-!
# One session for all

Where sessions are not told apart, every message belongs to the shared session, whatever it presents
(`Resolver.resolve_of_unaware`). So an engine that knows no other session (`Engine.OneSession`) has none to drop
(`OneSession.evictExpired_eq`, `OneSession.evictIdle_eq`), matches every stub request in the shared session
(`answer_of_oneSession`), and knows no other session afterwards (`oneSession_step`), along any run of messages and
sweeps (`oneSession_after`).

Together: `one_session_for_all`.
-/

namespace ScenarioStubs

namespace Engine

/-- Sessions are not told apart, and the engine knows none but the shared one. -/
structure OneSession (e : Engine) : Prop where
  unaware : e.config.sessions.sessionAware = false
  /-- No other session is stored. -/
  alone : ∀ s : SessionId, s ≠ .global → e.store.sessions[s]? = none
  /-- No session is marked as minted. -/
  unmarked : ∀ s, e.store.isMinted s = false
  /-- None was ever minted. -/
  unminted : e.stats.minted = 0

variable {e : Engine} {c : Call}

theorem oneSession_new {config : EngineConfig} (haware : config.sessions.sessionAware = false) (registry : Registry) :
    OneSession { new config with registry } :=
  ⟨haware, fun s _ => Store.sessions_empty s, fun s => Store.isMinted_of_none (Store.sessions_empty s), rfl⟩

namespace OneSession

variable (h : e.OneSession)
include h

theorem resolveSession_eq (fresh : SessionId) (r : Request) : e.resolveSession fresh r = ⟨.global, .global⟩ :=
  (Resolver.resolve_of_unaware h.unaware fresh r.headers r.cookies).1

/-- No session other than the shared one is active. -/
theorem activeSessions_eq : e.store.activeSessions = [] := by
  unfold Store.activeSessions
  rw [List.filter_eq_nil_iff]
  intro s hs hother
  have hne : s ≠ .global := by
    rintro rfl
    cases hother
  rw [Std.ExtTreeMap.mem_keys, Std.ExtTreeMap.mem_iff_isSome_getElem?, h.alone s hne] at hs
  cases hs

/-- What is stored belongs to the shared session and is not marked. -/
theorem of_entry {s : SessionId} {entry : SessionEntry} (hentry : e.store.sessions[s]? = some entry) :
    s = .global ∧ entry.minted = false := by
  refine ⟨?_, Store.minted_of_not_isMinted (h.unmarked s) hentry⟩
  by_contra hs
  cases hentry.symm.trans (h.alone s hs)

/-! ## Sweeps -/

theorem evictExpired_eq (reading : Instant) : e.evictExpired reading = (0, e) := by
  rw [Engine.evictExpired_eq, Store.evictWhere_of_forall_not]
  intro s entry hentry
  obtain ⟨hs, hunmarked⟩ := h.of_entry hentry
  rw [← Bool.not_eq_true, SessionSettings.expires_iff]
  rintro (⟨hmarked, -⟩ | ⟨hne, -⟩)
  · cases hmarked.symm.trans hunmarked
  · exact hne hs

theorem evictIdle_eq (reading : Instant) (limit : Duration) : e.evictIdle reading limit = (0, e) := by
  have hstore : e.store.evictIdle reading limit = (0, e.store) := by
    refine Store.evictWhere_of_forall_not _ _ fun s entry hentry => ?_
    rw [SessionId.isGlobal_iff.mpr (h.of_entry hentry).1]
    rfl
  unfold evictIdle
  rw [hstore]

theorem evictMinted_eq (reading : Instant) (limit : Duration) : e.store.evictMinted reading limit = (0, e.store) := by
  refine Store.evictWhere_of_forall_not _ _ fun s entry hentry => ?_
  rw [(h.of_entry hentry).2]
  rfl

/-! ## Calls -/

/-- A call that acts on no session, or on the shared one, leaves it alone in the store. -/
theorem step (hsession : ∀ s, c.operation.session? e.config = some s → s = .global)
    (hminted : c.operation.minted? e.config = none) : (e.step c).OneSession := by
  have halone : ∀ s : SessionId, s ≠ .global → (e.step c).store.sessions[s]? = none := fun s hs =>
    sessions_step_of_none (h.alone s hs) fun hacts => hs (hsession s hacts)
  constructor
  case unaware =>
    rw [step_config]
    exact h.unaware
  case alone => exact halone
  case unmarked =>
    intro s
    by_cases hs : s = .global
    · subst hs
      exact not_isMinted_global_step (h.unmarked .global)
    · exact Store.isMinted_of_none (halone s hs)
  case unminted =>
    rw [minted_step, hminted, h.unminted]
    rfl

/-- A request is matched in the shared session, and nothing else happens. -/
theorem serve_eq (now : Instant) (fresh : SessionId) (r : Request) :
    e.serve now fresh r = (⟨⟨.global, .global⟩, (e.matchIn now .global r).1⟩, (e.matchIn now .global r).2) := by
  have hunmarked : (e.matchIn now .global r).2.store.isMinted .global = false :=
    not_isMinted_global_step (c := ⟨now, .matchIn .global r⟩) (h.unmarked .global)
  have hkept : ResolvedSession.isEphemeral ⟨.global, .global⟩ = false := rfl
  rw [Engine.serve_eq, h.resolveSession_eq]
  dsimp only
  rw [hkept, if_neg Bool.false_ne_true, Store.adopt_of_not_isMinted hunmarked]

end OneSession

/-- Requests on which every mapping gives the same verdict are matched alike. -/
theorem matchIn_congr {r r' : Request}
    (h : ∀ m ∈ e.registry.mappings, m.predicate.evaluate r = m.predicate.evaluate r') (now : Instant) (s : SessionId) :
    e.matchIn now s r = e.matchIn now s r' := by
  have hcandidates : candidates e.registry r = candidates e.registry r' := by
    unfold candidates
    refine congrArg (List.map _) (List.filter_congr fun p hp => ?_)
    obtain ⟨m, i⟩ := p
    dsimp only
    rw [h m (List.fst_mem_of_mem_zipIdx hp)]
  have hmalformed : malformedCount e.registry r = malformedCount e.registry r' := by
    unfold malformedCount
    refine List.countP_congr fun m hm => ?_
    rw [h m hm]
  unfold matchIn
  rw [hcandidates, hmalformed]

end Engine

namespace Http

/-- What a server meets: a message, or a sweep at a given reading of the clock, which drops the sessions that have
expired, or those that have been idle for longer than a span, or those of them that are marked as minted. -/
inductive Event
  | message (x : Exchange)
  | evictExpired (reading : Instant)
  | evictIdle (reading : Instant) (limit : Duration)
  | evictMinted (reading : Instant) (limit : Duration)

namespace Event

/-- The engine after an event. -/
def step (e : Engine) : Event → Engine
  | .message x => Http.step e x
  | .evictExpired reading => (e.evictExpired reading).2
  | .evictIdle reading limit => (e.evictIdle reading limit).2
  | .evictMinted reading limit => { e with store := (e.store.evictMinted reading limit).2 }

/-- The engine after a run of events. -/
def after (e : Engine) (events : List Event) : Engine := events.foldl step e

end Event

/-- How a message is answered by an engine that knows the shared session alone. -/
structure AnsweredInShared (e : Engine) (x : Exchange) : Prop where
  /-- The message belongs to the shared session, and administration acts on that session, whatever it presents. -/
  session : e.resolveSession x.fresh.session x.message.toRequest = ⟨.global, .global⟩ ∧ sessionOf e x.message = .global
  /-- The reply of administration sets no cookie. -/
  admin : ∀ route, AdminRoute.ofMessage? x.message = some route →
    ∀ h ∈ (answer e x.now x.fresh x.message).1.headers, h.1 ≠ "set-cookie"
  /-- A stub request is matched in the shared session, and the reply is that of the stub, with no cookie added. -/
  stub : AdminRoute.ofMessage? x.message = none → answer e x.now x.fresh x.message =
    (.ofStub (e.matchIn x.now .global x.message.toRequest).1, (e.matchIn x.now .global x.message.toRequest).2)
  /-- Two stub requests on which each mapping gives the same verdict are answered alike, and lead to the same states. -/
  alike : ∀ fresh m, AdminRoute.ofMessage? x.message = none → AdminRoute.ofMessage? m = none →
    (∀ stub ∈ e.registry.mappings, stub.predicate.evaluate x.message.toRequest = stub.predicate.evaluate m.toRequest) →
      answer e x.now x.fresh x.message = answer e x.now fresh m

/-- Where sessions are not told apart, what a message asks for acts on no session but the shared one, and mints none. -/
theorem Asked.session_global {c : EngineConfig} {fresh : Fresh} {m : Message} {op : Operation}
    (haware : c.sessions.sessionAware = false) (h : Asked c fresh m op) :
    (∀ s, op.session? c = some s → s = .global) ∧ op.minted? c = none := by
  have hresolve := Resolver.resolve_of_unaware (c := c.sessions.resolver) haware fresh.session m.requestHeaders
    (Cookies.ofHeaders m.requestHeaders)
  cases h with
  | serve =>
    have hrequest : c.sessions.resolver.resolve fresh.session m.toRequest.headers m.toRequest.cookies =
      ⟨.global, .global⟩ := hresolve.1
    unfold Operation.session? Operation.minted?
    dsimp only
    rw [hrequest]
    exact ⟨fun s hs => (Option.some.inj hs).symm, rfl⟩
  | scenarios | setScenarioState => exact ⟨fun s hs => (Option.some.inj hs).symm.trans hresolve.2, rfl⟩
  | registerDefinition | removeStub | reset | resetScenarios => exact ⟨fun s hs => (nomatch hs), rfl⟩

section

variable {e : Engine} (h : e.OneSession)
include h

theorem sessionOf_of_oneSession (m : Message) : sessionOf e m = .global :=
  (Resolver.resolve_of_unaware h.unaware .global m.requestHeaders (Cookies.ofHeaders m.requestHeaders)).2

theorem answer_of_oneSession {m : Message} (hstub : AdminRoute.ofMessage? m = none) (now : Instant) (fresh : Fresh) :
    answer e now fresh m =
      (.ofStub (e.matchIn now .global m.toRequest).1, (e.matchIn now .global m.toRequest).2) := by
  rw [answer_of_stub hstub, h.serve_eq, renderEvent_of_kept rfl]

theorem answeredInShared (x : Exchange) : AnsweredInShared e x := by
  constructor
  case session => exact ⟨h.resolveSession_eq x.fresh.session x.message.toRequest, sessionOf_of_oneSession h x.message⟩
  case admin =>
    intro route hroute header hheader
    obtain ⟨type, htype⟩ := headers_answerAdmin e x.now x.fresh.stub x.message route
    have hdiffer : "content-type" ≠ "set-cookie" := by decide
    unfold answer at hheader
    rw [hroute] at hheader
    dsimp only at hheader
    rw [htype] at hheader
    rw [List.mem_singleton.mp hheader]
    exact hdiffer
  case stub => exact fun hstub => answer_of_oneSession h hstub x.now x.fresh
  case alike =>
    intro fresh m hx hm hverdicts
    rw [answer_of_oneSession h hx, answer_of_oneSession h hm, Engine.matchIn_congr hverdicts]

/-- No message and no sweep makes another session known. -/
theorem oneSession_step (event : Event) : (event.step e).OneSession := by
  cases event with
  | message x =>
    show (Http.step e x).OneSession
    rw [step_eq]
    unfold call?
    cases hop : operation? e.config x.fresh x.message with
    | none => exact h
    | some op =>
      obtain ⟨hsession, hminted⟩ := (asked_of_operation? hop).session_global h.unaware
      exact h.step (c := ⟨x.now, op⟩) hsession hminted
  | evictExpired reading =>
    show (e.evictExpired reading).2.OneSession
    rw [h.evictExpired_eq]
    exact h
  | evictIdle reading limit =>
    show (e.evictIdle reading limit).2.OneSession
    rw [h.evictIdle_eq]
    exact h
  | evictMinted reading limit =>
    show Engine.OneSession { e with store := (e.store.evictMinted reading limit).2 }
    rw [h.evictMinted_eq]
    exact h

theorem oneSession_after (events : List Event) : (Event.after e events).OneSession := by
  induction events generalizing e with
  | nil => exact h
  | cons event rest ih => exact ih (oneSession_step h event)

end

/-- **One session for all.** Take a run of messages and sweeps over a new engine with any mappings, which does not tell
sessions apart. At every point of the run no session but the shared one is stored, none is active, none is marked, none
was ever minted, and a sweep drops nothing and changes nothing. Whatever it presents, a message is answered in the
shared session: no cookie is added to the reply, and stub requests read and move the states of that session alone. -/
theorem one_session_for_all (config : EngineConfig) (haware : config.sessions.sessionAware = false)
    (registry : Registry) (events : List Event) :
    let e := Event.after { Engine.new config with registry } events
    e.OneSession ∧ e.store.activeSessions = [] ∧
      (∀ reading limit, e.evictExpired reading = (0, e) ∧ e.evictIdle reading limit = (0, e) ∧
        e.store.evictMinted reading limit = (0, e.store)) ∧
      ∀ x, AnsweredInShared e x := by
  intro e
  have h : e.OneSession := oneSession_after (Engine.oneSession_new haware registry) events
  refine ⟨h, h.activeSessions_eq, fun reading limit => ?_, answeredInShared h⟩
  exact ⟨h.evictExpired_eq reading, h.evictIdle_eq reading limit, h.evictMinted_eq reading limit⟩

/-- A stub is met under `a`, everything idle is dropped a billion seconds later, and the next stub is met under `b`. -/
theorem one_session_for_all_of_a_and_b :
    let first : StubMapping := ⟨⟨1⟩, 5, .always, some ⟨"S", some "Started", some "Seen"⟩, .ofStatus 201⟩
    let second : StubMapping := ⟨⟨2⟩, 5, .always, some ⟨"S", some "Seen", none⟩, .ofStatus 202⟩
    let config := EngineConfig.withSessionAware {} false
    let under := fun v : Bytes =>
      ({ method := "GET", target := ⟨"/x", none⟩, headers := [("x-wiremock-session-id", v)] } : Message)
    let fresh : Fresh := ⟨⟨"f", by decide⟩, ⟨3⟩⟩
    let e := Event.after { Engine.new config with registry := ⟨[first, second]⟩ }
      [.message ⟨⟨0⟩, fresh, under [0x61]⟩, .evictIdle ⟨1000000000000000000⟩ ⟨0⟩]
    (∀ s : SessionId, s ≠ .global → e.store.sessions[s]? = none) ∧ e.store.activeSessions = [] ∧
      e.store.peek .global "S" = some "Seen" ∧ (answer e ⟨1⟩ fresh (under [0x62])).1.status = 202 := by
  intro first second config under fresh e
  obtain ⟨hone, hactive, -, hanswered⟩ := one_session_for_all config rfl ⟨[first, second]⟩
    [.message ⟨⟨0⟩, fresh, under [0x61]⟩, .evictIdle ⟨1000000000000000000⟩ ⟨0⟩]
  have hstub : AdminRoute.ofMessage? (under [0x62]) = none := by decide +kernel
  have hreply := (hanswered ⟨⟨1⟩, fresh, under [0x62]⟩).stub hstub
  refine ⟨hone.alone, hactive, by decide +kernel, ?_⟩
  rw [hreply]
  decide +kernel

end Http

end ScenarioStubs
