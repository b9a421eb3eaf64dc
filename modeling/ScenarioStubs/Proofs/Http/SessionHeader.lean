import ScenarioStubs.Proofs.Engine.InStep
import ScenarioStubs.Proofs.Http.Run
import ScenarioStubs.Proofs.Http.Session
import ScenarioStubs.Proofs.Text.Utf8

/-!
# Session headers and the sessions they name

The value of a session header names the session whose token it is when read leniently as UTF-8 (`headerSession`). Values
that are read alike name one session; different texts are never read alike (`headerSession_ne_of_encode`), while bytes
that are no text may be.

Two values that name different sessions keep apart what is done under them. The reply to a message under one of them is
the same in all engines that agree on its session (`reply_congr`), and a stub request under the other leaves the engine
in step with itself on that session (`inStep_step_other`). By induction along a run, stub requests under the one show in
no reply under the other: `header_sessions_apart`.
-/

namespace ScenarioStubs.Http

/-- The message names no administrative operation. -/
def Message.isStub (m : Message) : Bool := (AdminRoute.ofMessage? m).isNone

/-- The message has one session header, with the given value. -/
def Message.isUnder (c : SessionSettings) (v : Bytes) (m : Message) : Bool := m.values c.headerName == [v]

/-- The session that the value of a session header names. -/
def headerSession (v : Bytes) (h : v ≠ []) : SessionId :=
  ⟨Utf8.decodeLossy v, fun hempty => h (Utf8.decodeLossy_eq_empty_iff.mp hempty)⟩

variable {m : Message} {v v₁ v₂ : Bytes} {c : SessionSettings} {a : SessionId} {e e₁ e₂ : Engine}

/-! ## Values -/

theorem presents_of_isUnder (h : v ≠ []) (hunder : m.isUnder c v = true) : Presents c m (headerSession v h) := by
  have hvalues : m.values c.headerName = [v] := eq_of_beq hunder
  refine .inl ?_
  unfold Headers.get?
  rw [getAll_requestHeaders, hvalues]
  rfl

theorem headerSession_eq_iff (h₁ : v₁ ≠ []) (h₂ : v₂ ≠ []) :
    headerSession v₁ h₁ = headerSession v₂ h₂ ↔ Utf8.decodeLossy v₁ = Utf8.decodeLossy v₂ := SessionId.ext_iff

/-- Different texts name different sessions. -/
theorem headerSession_ne_of_encode {t₁ t₂ : String} (h₁ : v₁ ≠ []) (h₂ : v₂ ≠ []) (ht₁ : v₁ = Utf8.encode t₁)
    (ht₂ : v₂ = Utf8.encode t₂) (hne : v₁ ≠ v₂) : headerSession v₁ h₁ ≠ headerSession v₂ h₂ := by
  intro heq
  have htexts := (headerSession_eq_iff h₁ h₂).mp heq
  rw [ht₁, ht₂, Utf8.decodeLossy_encode, Utf8.decodeLossy_encode] at htexts
  exact hne (by rw [ht₁, ht₂, htexts])

/-- No message is under two values. -/
theorem not_isUnder (hne : v₁ ≠ v₂) (hunder : m.isUnder c v₂ = true) : m.isUnder c v₁ = false := by
  have hvalues : m.values c.headerName = [v₂] := eq_of_beq hunder
  rw [Message.isUnder, hvalues, beq_eq_false_iff_ne]
  exact fun heq => hne (List.singleton_inj.mp heq).symm

/-! ## Replies -/

/-- The reply of an administrative operation depends on the settings, the mappings and the session that it acts on. -/
theorem answerAdmin_fst_congr (h : Engine.AgreeOn a e₁ e₂) (hs : sessionOf e₁ m = a) (now : Instant) (fresh : StubId)
    (route : AdminRoute) : (answerAdmin e₁ now fresh m route).1 = (answerAdmin e₂ now fresh m route).1 := by
  have hs₂ : sessionOf e₂ m = a := by
    rw [← hs]
    unfold sessionOf Engine.resolver
    rw [h.config]
  cases route with
  | createMapping =>
    unfold answerAdmin Engine.registerDefinition
    dsimp only
    cases (Json.parseBytes? m.body).bind MappingDefinition.decode? with
    | none => rfl
    | some d =>
      dsimp only
      cases d.build fresh <;> rfl
  | listMappings =>
    unfold answerAdmin
    rw [h.registry]
  | resetMappings | reset | resetScenarios => rfl
  | removeMapping segment =>
    unfold answerAdmin Engine.removeStub
    rw [h.registry]
    dsimp only
    cases Uuid.parse? segment with
    | none => rfl
    | some id =>
      dsimp only
      cases e₂.registry.remove id with
      | mk removed registry => cases removed <;> rfl
  | listScenarios =>
    unfold answerAdmin
    rw [hs, hs₂, h.scenarios]
  | setScenarioState segment =>
    rw [answerAdmin_setScenarioState, answerAdmin_setScenarioState, hs, hs₂]
    cases requestedState? m.body with
    | none => rfl
    | some state =>
      cases Percent.decode? segment with
      | none => rfl
      | some name =>
        unfold Engine.setScenarioState
        rw [h.registry]
        dsimp only
        cases e₂.registry.knowsScenario name <;> rfl

/-- The reply to a message that presents a session is the same in engines that agree on that session. -/
theorem reply_congr (h : Engine.AgreeOn a e₁ e₂) (haware : e₁.config.sessions.sessionAware = true)
    (hpresents : Presents e₁.config.sessions m a) (now : Instant) (fresh : Fresh) :
    (answer e₁ now fresh m).1 = (answer e₂ now fresh m).1 := by
  cases hroute : AdminRoute.ofMessage? m with
  | none =>
    obtain ⟨hid, hkept⟩ := resolveSession_of_presents haware hpresents fresh.session
    rw [answer_of_stub hroute, answer_of_stub hroute, (h.serve now m.toRequest hid hkept).1, h.config]
  | some route =>
    have hadmin := answerAdmin_fst_congr h (sessionOf_of_presents haware hpresents) now fresh.stub route
    unfold answer
    rw [hroute]
    exact hadmin

/-! ## Exchanges -/

/-- An exchange on both engines keeps them in step. -/
theorem inStep_step (h : Engine.InStep a e₁ e₂) (x : Exchange) : Engine.InStep a (step e₁ x) (step e₂ x) := by
  rw [step_eq, step_eq, h.config]
  cases call? e₂.config x with
  | none => exact h
  | some c => exact h.perform c.now c.operation

/-- A stub request that presents another session leaves the engine in step with itself. -/
theorem inStep_step_other {b : SessionId} (haware : e.config.sessions.sessionAware = true) {x : Exchange}
    (hstub : x.message.isStub = true) (hpresents : Presents e.config.sessions x.message b) (hab : a ≠ b) :
    Engine.InStep a e (step e x) := by
  obtain ⟨hid, hkept⟩ := resolveSession_of_presents haware hpresents x.fresh.session
  unfold step
  rw [answer_of_stub (Option.isNone_iff_eq_none.mp hstub)]
  exact Engine.inStep_serve_other hid hkept hab

/-! ## Runs -/

/-- What is told under a value in a run: the messages under it, with their replies. -/
def repliesUnder (e : Engine) (c : SessionSettings) (v : Bytes) (xs : List Exchange) : List (Exchange × Reply) :=
  (replies e xs).filter (·.1.message.isUnder c v)

/-- A run without the stub requests under a value. -/
def withoutUnder (c : SessionSettings) (v : Bytes) (xs : List Exchange) : List Exchange :=
  xs.filter fun x => !(x.message.isStub && x.message.isUnder c v)

theorem repliesUnder_cons (e : Engine) (c : SessionSettings) (v : Bytes) (x : Exchange) (rest : List Exchange) :
    repliesUnder e c v (x :: rest) =
      if x.message.isUnder c v then (x, (answer e x.now x.fresh x.message).1) :: repliesUnder (step e x) c v rest
      else repliesUnder (step e x) c v rest := by
  unfold repliesUnder
  rw [replies, List.filter_cons]

/-- Engines in step on the session of one value tell the same under it, and stay in step, in a run and in the same run
without the stub requests under another value. -/
theorem inStep_run (haware : c.sessionAware = true) (h₁ : v₁ ≠ []) (h₂ : v₂ ≠ [])
    (hne : headerSession v₁ h₁ ≠ headerSession v₂ h₂) (xs : List Exchange) (hconfig : e₁.config.sessions = c)
    (h : Engine.InStep (headerSession v₁ h₁) e₁ e₂) :
    repliesUnder e₁ c v₁ xs = repliesUnder e₂ c v₁ (withoutUnder c v₂ xs) ∧
      Engine.InStep (headerSession v₁ h₁) (after e₁ xs) (after e₂ (withoutUnder c v₂ xs)) := by
  -- Both runs go on from different engines, and what carries over from message to message is that they are in step.
  induction xs generalizing e₁ e₂ with
  | nil => exact ⟨rfl, h⟩
  | cons x rest ih =>
    have hconfig' : (step e₁ x).config.sessions = c := by rw [step_config, hconfig]
    have haware₁ : e₁.config.sessions.sessionAware = true := hconfig ▸ haware
    unfold withoutUnder
    rw [List.filter_cons, repliesUnder_cons]
    cases hother : x.message.isStub && x.message.isUnder c v₂ with
    | true =>
      -- The message is dropped, and nothing of it shows under the first value.
      obtain ⟨hstub, hunder⟩ := (Bool.and_eq_true _ _).mp hother
      have hvalues : v₁ ≠ v₂ := by
        rintro rfl
        exact hne rfl
      have hpresents : Presents e₁.config.sessions x.message (headerSession v₂ h₂) :=
        hconfig ▸ presents_of_isUnder h₂ hunder
      have hstep := inStep_step_other haware₁ hstub hpresents hne
      rw [not_isUnder hvalues hunder]
      exact ih hconfig' (hstep.symm.trans h)
    | false =>
      obtain ⟨hreplies, hafter⟩ := ih hconfig' (inStep_step h x)
      refine ⟨?_, hafter⟩
      show _ = repliesUnder e₂ c v₁ (x :: withoutUnder c v₂ rest)
      rw [repliesUnder_cons, ← hreplies]
      cases hunder : x.message.isUnder c v₁ with
      | false => rfl
      | true =>
        have hpresents : Presents e₁.config.sessions x.message (headerSession v₁ h₁) :=
          hconfig ▸ presents_of_isUnder h₁ hunder
        rw [reply_congr h.toAgreeOn haware₁ hpresents]

/-- **Session headers that are read differently keep their sessions apart.** Take a server that tells sessions apart,
and two values that are not empty. A stub request whose only session header has one of them belongs to the session that
the value names when it is read leniently as UTF-8. So the values name one session exactly if they are read alike;
values that are texts do so only if they are the same. If they name two sessions, then in any run the replies to
messages under the one, and what is stored for its session at the end, are the same as in the run without the stub
requests under the other. -/
theorem header_sessions_apart (e : Engine) (haware : e.config.sessions.sessionAware = true) {v₁ v₂ : Bytes}
    (h₁ : v₁ ≠ []) (h₂ : v₂ ≠ []) :
    let c := e.config.sessions
    (∀ (m : Message) (fresh : SessionId),
        (m.isUnder c v₁ = true → (e.resolveSession fresh m.toRequest).id = headerSession v₁ h₁) ∧
        (m.isUnder c v₂ = true → (e.resolveSession fresh m.toRequest).id = headerSession v₂ h₂)) ∧
      (headerSession v₁ h₁ = headerSession v₂ h₂ ↔ Utf8.decodeLossy v₁ = Utf8.decodeLossy v₂) ∧
      (∀ t₁ t₂, v₁ = Utf8.encode t₁ → v₂ = Utf8.encode t₂ → v₁ ≠ v₂ →
        headerSession v₁ h₁ ≠ headerSession v₂ h₂) ∧
      (headerSession v₁ h₁ ≠ headerSession v₂ h₂ → ∀ xs : List Exchange,
        repliesUnder e c v₁ xs = repliesUnder e c v₁ (withoutUnder c v₂ xs) ∧
          (after e xs).store.sessions[headerSession v₁ h₁]? =
            (after e (withoutUnder c v₂ xs)).store.sessions[headerSession v₁ h₁]?) := by
  intro c
  refine ⟨fun m fresh => ⟨fun hunder => ?_, fun hunder => ?_⟩, headerSession_eq_iff h₁ h₂,
    fun t₁ t₂ => headerSession_ne_of_encode h₁ h₂, fun hne xs => ?_⟩
  · exact (resolveSession_of_presents haware (presents_of_isUnder h₁ hunder) fresh).1
  · exact (resolveSession_of_presents haware (presents_of_isUnder h₂ hunder) fresh).1
  · obtain ⟨hreplies, hafter⟩ := inStep_run haware h₁ h₂ hne xs rfl (.refl _ e)
    exact ⟨hreplies, hafter.entry⟩

/-- Under `a` and under `ä` a stub is met for the first time each; the request under `ä` does not show under `a`. -/
theorem header_sessions_apart_of_a_and_umlaut :
    let first : StubMapping := ⟨⟨1⟩, 5, .always, some ⟨"S", some "Started", some "Seen"⟩, .ofStatus 201⟩
    let e := (Engine.new (EngineConfig.withSignalNames {} "s" "C")).register first
    let c := e.config.sessions
    let under := fun v : Bytes => ({ method := "GET", target := ⟨"/x", none⟩, headers := [("s", v)] } : Message)
    let fresh : Fresh := ⟨⟨"f", by decide⟩, ⟨2⟩⟩
    let xs : List Exchange := [⟨⟨0⟩, fresh, under [0xC3, 0xA4]⟩, ⟨⟨1⟩, fresh, under [0x61]⟩]
    (c.sessionAware = true ∧ (withoutUnder c [0xC3, 0xA4] xs).length = 1) ∧
      (e.resolveSession fresh.session (under [0xC3, 0xA4]).toRequest).id = ⟨"ä", by decide⟩ ∧
      repliesUnder e c [0x61] xs = repliesUnder e c [0x61] (withoutUnder c [0xC3, 0xA4] xs) := by
  intro first e c under fresh xs
  have ha : ([0x61] : Bytes) ≠ [] := by decide
  have humlaut : ([0xC3, 0xA4] : Bytes) ≠ [] := by decide
  obtain ⟨hsession, -, htexts, hruns⟩ := header_sessions_apart e rfl ha humlaut
  have hne := htexts "a" "ä" (by decide +kernel) (by decide +kernel) (by decide)
  have hread : Utf8.decodeLossy [0xC3, 0xA4] = "ä" := by decide +kernel
  have hsecond := (hsession (under [0xC3, 0xA4]) fresh.session).2 (by decide +kernel)
  exact ⟨⟨rfl, by decide +kernel⟩, hsecond.trans (SessionId.ext hread), (hruns hne xs).1⟩

/-- The values `FF` and `FE` are no texts and read alike: a stub request under the one is answered as if it were the
second under the other. -/
theorem one_session_under_ff_and_fe :
    let first : StubMapping := ⟨⟨1⟩, 5, .always, some ⟨"S", some "Started", some "Seen"⟩, .ofStatus 201⟩
    let second : StubMapping := ⟨⟨2⟩, 5, .always, some ⟨"S", some "Seen", none⟩, .ofStatus 202⟩
    let e := ((Engine.new (EngineConfig.withSignalNames {} "s" "C")).register first).register second
    let c := e.config.sessions
    let under := fun v : Bytes => ({ method := "GET", target := ⟨"/x", none⟩, headers := [("s", v)] } : Message)
    let fresh : Fresh := ⟨⟨"f", by decide⟩, ⟨3⟩⟩
    let e' := step e ⟨⟨0⟩, fresh, under [0xFF]⟩
    (c.sessionAware = true ∧ ([0xFF] : Bytes) ≠ [0xFE] ∧ (under [0xFF]).isUnder c [0xFF] = true ∧
        (under [0xFE]).isUnder c [0xFE] = true) ∧
      (e.resolveSession fresh.session (under [0xFF]).toRequest).id =
        (e.resolveSession fresh.session (under [0xFE]).toRequest).id ∧
      (answer e ⟨1⟩ fresh (under [0xFE])).1.status = 201 ∧ (answer e' ⟨1⟩ fresh (under [0xFE])).1.status = 202 := by
  decide +kernel

end ScenarioStubs.Http
