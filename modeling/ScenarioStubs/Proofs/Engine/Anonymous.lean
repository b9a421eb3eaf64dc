import ScenarioStubs.Proofs.Engine.Asking
import ScenarioStubs.Proofs.Session.Resolver

/-!
# Requests without a session

A request that presents no session is given one that the store does not hold, in which every scenario is in the start
state (`Store.effectiveState_of_none`). Its answer is that of a match with every scenario in the start state, which the
mappings and their ranking alone determine (`matchIn_fst_congr`); nothing that happened before shows in it
(`anonymous_history_independent`).
-/

namespace ScenarioStubs

/-- Sessions are told apart, and the request presents none: neither the session header nor the session cookie has a
value that is not empty. -/
structure SessionSettings.Anonymous (c : SessionSettings) (r : Request) : Prop where
  aware : c.sessionAware = true
  header : ∀ token, r.headers.get? c.headerName = some token → token = ""
  cookie : ∀ token, r.cookies.get? c.cookieName = some token → token = ""

namespace Store

variable {st : Store} {s : SessionId}

/-- In a session that is not stored every scenario is in the start state. -/
theorem effectiveState_of_none (h : st.sessions[s]? = none) (n : String) : st.effectiveState s n = startState := by
  unfold effectiveState
  rw [peek_of_none h]
  rfl

end Store

namespace Engine

variable {e e' : Engine} {now now' : Instant} {s s' fresh : SessionId} {r : Request}

/-- The answer to a request depends on the mappings, their ranking and the states of the scenarios in its session. -/
theorem matchIn_fst_congr (hselection : e.config.selection = e'.config.selection) (hregistry : e.registry = e'.registry)
    (hstates : ∀ n, e.store.effectiveState s n = e'.store.effectiveState s' n) :
    (e.matchIn now s r).1 = (e'.matchIn now' s' r).1 := by
  rw [matchIn_fst, matchIn_fst, chosen?_congr hselection hregistry fun n _ => hstates n]

theorem resolveSession_of_anonymous (h : e.config.sessions.Anonymous r) :
    e.resolveSession fresh r = ⟨fresh, .minted⟩ := by
  have hnone : e.resolver.presented? r.headers r.cookies = none :=
    Resolver.presented?_eq_none_iff.mpr ⟨h.header, h.cookie⟩
  have haware : e.resolver.sessionAware = true := h.aware
  exact (Resolver.resolve_of_not_presented haware hnone fresh).1

/-- An anonymous request is answered in a minted session as in any session with every scenario in the start state. -/
theorem serve_fst_of_anonymous (h : e.config.sessions.Anonymous r) (hfresh : e.store.sessions[fresh]? = none)
    (hselection : e.config.selection = e'.config.selection) (hregistry : e.registry = e'.registry)
    (hstart : ∀ n, e'.store.effectiveState s n = startState) :
    (e.serve now fresh r).1 = ⟨⟨fresh, .minted⟩, (e'.matchIn now' s r).1⟩ := by
  rw [serve_eq, resolveSession_of_anonymous h]
  refine congrArg (ServeEvent.mk ⟨fresh, .minted⟩) (matchIn_fst_congr hselection hregistry fun n => ?_)
  rw [Store.effectiveState_of_none hfresh, hstart]

/-- **Anonymous requests are independent of history.** Take two engines with the same mappings and the same ranking,
whatever else they have seen, and a request that presents no session to either. Each mints a session for it, of which
its store holds nothing; both serve the same stub, the one that answers the request wherever these mappings are matched
in a session with every scenario in the start state. -/
theorem anonymous_history_independent (e₁ e₂ : Engine) (now₁ now₂ : Instant) (fresh₁ fresh₂ : SessionId) (r : Request)
    (hregistry : e₁.registry = e₂.registry) (hselection : e₁.config.selection = e₂.config.selection)
    (h₁ : e₁.config.sessions.Anonymous r) (h₂ : e₂.config.sessions.Anonymous r)
    (hfresh₁ : e₁.store.sessions[fresh₁]? = none) (hfresh₂ : e₂.store.sessions[fresh₂]? = none) :
    ∃ stub, (e₁.serve now₁ fresh₁ r).1 = ⟨⟨fresh₁, .minted⟩, stub⟩ ∧
      (e₂.serve now₂ fresh₂ r).1 = ⟨⟨fresh₂, .minted⟩, stub⟩ ∧
      ∀ (e : Engine) (now : Instant) (s : SessionId), e.registry = e₁.registry →
        e.config.selection = e₁.config.selection → (∀ n, e.store.effectiveState s n = startState) →
        (e.matchIn now s r).1 = stub := by
  have hreset : ∀ n, e₁.resetScenarios.store.effectiveState fresh₁ n = startState :=
    Store.effectiveState_of_none (Store.sessions_resetAll e₁.store fresh₁)
  refine ⟨(e₁.resetScenarios.matchIn now₁ fresh₁ r).1, ?_, ?_, fun e now s hr hs hstart => ?_⟩
  · exact serve_fst_of_anonymous h₁ hfresh₁ rfl rfl hreset
  · exact serve_fst_of_anonymous h₂ hfresh₂ hselection.symm hregistry.symm hreset
  · exact matchIn_fst_congr hs hr fun n => (hstart n).trans (hreset n).symm

/-- One engine is new, in the other a session has moved the scenario; the request has an empty session header. -/
theorem anonymous_history_independent_of_progress :
    let first : StubMapping := ⟨⟨1⟩, 5, .always, some ⟨"S", some "Started", some "Seen"⟩, .ofStatus 201⟩
    let second : StubMapping := ⟨⟨2⟩, 5, .always, some ⟨"S", some "Seen", none⟩, .ofStatus 202⟩
    let e₁ := ((Engine.new (EngineConfig.withSignalNames {} "S" "C")).register first).register second
    let e₂ := (e₁.matchIn ⟨0⟩ ⟨"a", by decide⟩ (Request.new "GET" "/")).2
    let r := (Request.new "GET" "/").withHeader "S" ""
    let m : SessionId := ⟨"m", by decide⟩
    let n : SessionId := ⟨"n", by decide⟩
    e₂.store.effectiveState ⟨"a", by decide⟩ "S" = "Seen" ∧
      ∃ stub, (e₁.serve ⟨1⟩ m r).1 = ⟨⟨m, .minted⟩, stub⟩ ∧ (e₂.serve ⟨2⟩ n r).1 = ⟨⟨n, .minted⟩, stub⟩ ∧
        ∀ (e : Engine) (now : Instant) (s : SessionId), e.registry = e₁.registry →
          e.config.selection = e₁.config.selection → (∀ n, e.store.effectiveState s n = startState) →
          (e.matchIn now s r).1 = stub := by
  intro first second e₁ e₂ r m n
  have hheader : r.headers.get? "S" = some "" := by decide +kernel
  have hcookie : r.cookies.get? "C" = none := by decide +kernel
  have hanonymous : e₁.config.sessions.Anonymous r :=
    ⟨rfl, fun token h => (Option.some.inj (hheader.symm.trans h)).symm,
      fun token h => absurd (hcookie.symm.trans h) (Option.some_ne_none token).symm⟩
  have hmatch := matchIn_eq e₁ ⟨0⟩ ⟨"a", by decide⟩ (Request.new "GET" "/")
  have hconfig : e₁.config = e₂.config := (congrArg (·.2.config) hmatch).symm
  have hregistry : e₁.registry = e₂.registry := (congrArg (·.2.registry) hmatch).symm
  exact ⟨by decide, anonymous_history_independent e₁ e₂ ⟨1⟩ ⟨2⟩ m n r hregistry (congrArg (·.selection) hconfig)
    hanonymous (hconfig ▸ hanonymous) (Store.sessions_empty m) (by decide)⟩

end Engine

end ScenarioStubs
