import ScenarioStubs.Proofs.Engine.Anonymous
import ScenarioStubs.Proofs.Engine.Stamps
import ScenarioStubs.Proofs.Http.Server
import ScenarioStubs.Proofs.Session.Cookies
import ScenarioStubs.Proofs.Text.Utf8
import ScenarioStubs.Proofs.Uuid
import ScenarioStubs.ServerConfig

/-!
# Cookies that hand out sessions

A minted session is handed out in a cookie (`answer_of_anonymous`), and the client sends back what stands before the
first semicolon of it (`cookiePair`). If the name of the cookie is plain, that is the name and the session
(`cookiePair_sessionCookie`), and the session is read off it (`presented?_of_pair`). A cookie under any other name is
never read off a request, so that no session is continued by it (`anonymous_of_not_isPlain`). Usable settings may have
such a name: a cookie continues its session exactly if its name is plain (`cookie_continues_session_iff`).
-/

namespace ScenarioStubs

namespace Http

/-! ## What a client sends back -/

/-- What a client sends back of a cookie: the part before the first semicolon. -/
def cookiePair (cookie : String) : String := String.ofList (cookie.toList.takeWhile (· != ';'))

variable {name token : String}

theorem cookiePair_sessionCookie (hname : ';' ∉ name.toList) (htoken : ';' ∉ token.toList) :
    cookiePair (sessionCookie name token) = name ++ "=" ++ token := by
  have hpair : ∀ c ∈ name.toList ++ '=' :: token.toList, (c != ';') = true := by
    intro c hc
    rw [bne_iff_ne]
    rintro rfl
    rcases List.mem_append.mp hc with hc | hc
    · exact hname hc
    rcases List.mem_cons.mp hc with heq | hc
    · exact absurd heq (by decide)
    · exact htoken hc
  have hlist : (sessionCookie name token).toList =
      (name.toList ++ '=' :: token.toList) ++ "; Path=/; HttpOnly; SameSite=Lax".toList := by
    simp [sessionCookie]
  have hend : "; Path=/; HttpOnly; SameSite=Lax".toList.takeWhile (· != ';') = [] := rfl
  unfold cookiePair
  rw [hlist, List.takeWhile_append_of_pos hpair, hend, List.append_nil]
  apply String.toList_injective
  simp

theorem isHeaderValue_sessionCookie (hname : isHeaderValue name = true) (htoken : isHeaderValue token = true) :
    isHeaderValue (sessionCookie name token) = true := by
  unfold isHeaderValue sessionCookie at *
  rw [String.toList_append, String.toList_append, String.toList_append, List.all_append, List.all_append,
    List.all_append, hname, htoken]
  decide

/-- A written UUID can be sent in a header, holds no semicolon, and has nothing that would be trimmed. -/
theorem isHeaderValue_render (u : Uuid) : isHeaderValue u.render = true :=
  List.all_eq_true.mpr (Uuid.forall_mem_render (by decide) (by decide) u)

theorem semicolon_not_mem_render (u : Uuid) : ';' ∉ u.render.toList :=
  fun h => Uuid.forall_mem_render (p := (· ≠ ';')) (by decide) (by decide) u ';' h rfl

theorem trim_render (u : Uuid) : Text.trim u.render.toList = u.render.toList :=
  Text.trimBoth_of_all (Uuid.forall_mem_render (by decide) (by decide) u)

theorem trimQuotes_render (u : Uuid) : Text.trimBoth (· == '"') u.render.toList = u.render.toList :=
  Text.trimBoth_of_all (Uuid.forall_mem_render (by decide) (by decide) u)

end Http

/-! ## Reading the session -/

namespace Resolver

variable {r : Resolver} {headers : Headers} {u : Uuid} {s : SessionId}

/-- A request whose only `Cookie` header pairs a plain name with a session presents that session. -/
theorem presented?_of_pair (hplain : Cookies.IsPlain r.cookieName) (hne : r.cookieName ≠ "")
    (hs : s.token = u.render) (hheader : ∀ token, headers.get? r.headerName = some token → token = "")
    (hcookie : headers.getAll "cookie" = [r.cookieName ++ "=" ++ s.token]) :
    r.presented? headers (Cookies.ofHeaders headers) = some ⟨s, .cookie⟩ := by
  have hnone : (headers.get? r.headerName).bind SessionId.ofToken? = none := by
    rw [Option.bind_eq_none_iff]
    exact fun token htoken => SessionId.ofToken?_eq_none_iff.mpr (hheader token htoken)
  have hpairs : Cookies.pairsOf (r.cookieName ++ "=" ++ s.token) = [(r.cookieName, s.token)] := by
    rw [hs]
    exact Cookies.pairsOf_pair hplain hne (Http.semicolon_not_mem_render u) (Http.trim_render u)
      (Http.trimQuotes_render u)
  rw [presented?_of_no_header hnone, Cookies.get?_of_pair hcookie hpairs, Option.bind_some,
    SessionId.ofToken?_eq_some_iff.mpr rfl]
  rfl

end Resolver

/-- The session that a UUID names. -/
def SessionId.ofUuid (u : Uuid) : SessionId := ⟨u.render, u.render_ne_empty⟩

theorem ServerConfig.cookieName_ne_empty {c : ServerConfig} (h : c.validate = .ok ()) :
    c.engine.sessions.cookieName ≠ "" := by
  unfold validate at h
  split at h
  case isTrue => cases h
  case isFalse =>
    split at h
    case isTrue => cases h
    case isFalse hnames => exact fun hcookie => hnames (.inr hcookie)

namespace Http

variable {e : Engine} {u : Uuid} {m : Message}

/-- No session is handed out with the answer to a request whose session was not minted. -/
theorem answer_of_kept (now : Instant) {fresh : Fresh} (hstub : AdminRoute.ofMessage? m = none) {s : ResolvedSession}
    (hsession : e.resolveSession fresh.session m.toRequest = s) (hkept : s.isEphemeral = false) :
    (answer e now fresh m).1 = .ofStub (e.matchIn now s.id m.toRequest).1 := by
  rw [answer_of_stub hstub, Engine.serve_eq, hsession]
  exact renderEvent_of_kept hkept

/-- A minted session is handed out with the answer. -/
theorem answer_of_minted (now : Instant) (fresh : Fresh) (hstub : AdminRoute.ofMessage? m = none)
    (hsession : e.resolveSession fresh.session m.toRequest = ⟨fresh.session, .minted⟩)
    (hname : isHeaderValue e.config.sessions.cookieName = true) (hfresh : fresh.session = .ofUuid u) :
    (answer e now fresh m).1 = (Reply.ofStub (e.matchIn now fresh.session m.toRequest).1).withCookie
      (sessionCookie e.config.sessions.cookieName u.render) := by
  have htoken : fresh.session.token = u.render := congrArg SessionId.token hfresh
  have hvalue : isHeaderValue (sessionCookie e.config.sessions.cookieName fresh.session.token) = true := by
    rw [htoken]
    exact isHeaderValue_sessionCookie hname (isHeaderValue_render u)
  rw [answer_of_stub hstub, Engine.serve_eq, hsession, ← htoken]
  exact renderEvent_of_minted rfl hvalue

/-- A request that sends back a cookie with a plain name belongs to the session of the cookie. -/
theorem resolveSession_of_isPlain (haware : e.config.sessions.sessionAware = true)
    (hplain : Cookies.IsPlain e.config.sessions.cookieName) (hne : e.config.sessions.cookieName ≠ "")
    (hheader : ∀ token, m.requestHeaders.get? e.config.sessions.headerName = some token → token = "")
    (hcookie : m.values "cookie" = [Utf8.encode (cookiePair (sessionCookie e.config.sessions.cookieName u.render))])
    (s : SessionId) : e.resolveSession s m.toRequest = ⟨.ofUuid u, .cookie⟩ := by
  have hwritten : m.requestHeaders.getAll "cookie" = [e.config.sessions.cookieName ++ "=" ++ u.render] := by
    rw [getAll_requestHeaders, hcookie, cookiePair_sessionCookie hplain.no_semicolon (semicolon_not_mem_render u),
      List.map_singleton, Utf8.decodeLossy_encode]
  have hpresented : e.resolver.presented? m.requestHeaders (Cookies.ofHeaders m.requestHeaders) =
      some ⟨.ofUuid u, .cookie⟩ := Resolver.presented?_of_pair hplain hne rfl hheader hwritten
  have haware : e.resolver.sessionAware = true := haware
  exact (Resolver.resolve_of_presented haware hpresented s).1

/-- A request without a session header is anonymous if the name of the cookie is not plain, whatever cookies it holds.
-/
theorem anonymous_of_not_isPlain (haware : e.config.sessions.sessionAware = true)
    (hplain : ¬Cookies.IsPlain e.config.sessions.cookieName)
    (hheader : ∀ token, m.requestHeaders.get? e.config.sessions.headerName = some token → token = "") :
    e.config.sessions.Anonymous m.toRequest where
  aware := haware
  header := hheader
  cookie _ hcookie := absurd (Cookies.isPlain_of_get? hcookie) hplain

/-- Sending back a cookie for a session, and no session header: the request belongs to that session if the name of the
cookie is plain, else a session is minted for it and handed out. -/
theorem answer_to_cookiePair (now : Instant) (fresh : Fresh) {c : SessionSettings} (hconfig : e.config.sessions = c)
    (haware : c.sessionAware = true) (hne : c.cookieName ≠ "") (hname : isHeaderValue c.cookieName = true) {u' : Uuid}
    (hfresh : fresh.session = .ofUuid u') (hstub : AdminRoute.ofMessage? m = none)
    (hheader : ∀ token, m.requestHeaders.get? c.headerName = some token → token = "")
    (hcookie : m.values "cookie" = [Utf8.encode (cookiePair (sessionCookie c.cookieName u.render))]) :
    if Cookies.IsPlain c.cookieName then
      e.resolveSession fresh.session m.toRequest = ⟨.ofUuid u, .cookie⟩ ∧
        (answer e now fresh m).1 = .ofStub (e.matchIn now (.ofUuid u) m.toRequest).1
    else
      e.resolveSession fresh.session m.toRequest = ⟨fresh.session, .minted⟩ ∧
        (answer e now fresh m).1 = (Reply.ofStub (e.matchIn now fresh.session m.toRequest).1).withCookie
          (sessionCookie c.cookieName u'.render) := by
  subst hconfig
  split
  case isTrue hplain =>
    have hsession := resolveSession_of_isPlain haware hplain hne hheader hcookie fresh.session
    have hanswer := answer_of_kept now hstub hsession rfl
    exact ⟨hsession, hanswer⟩
  case isFalse hplain =>
    have hsession : e.resolveSession fresh.session m.toRequest = ⟨fresh.session, .minted⟩ :=
      Engine.resolveSession_of_anonymous (anonymous_of_not_isPlain haware hplain hheader)
    have hanswer := answer_of_minted now fresh hstub hsession hname hfresh
    exact ⟨hsession, hanswer⟩

/-- **A cookie continues its session exactly if its name is plain.** Let the settings be usable and the name of the
cookie one that a header can carry. A request that presents no session is answered with a cookie for the session minted
for it. Whatever happens then, if a later request sends back the part of it before the first semicolon in its only
`Cookie` header, and has no session header, it belongs to the same session if the name is plain, and no session is
handed out to it; under any other name a new session is minted for it and handed out. -/
theorem cookie_continues_session_iff {c : ServerConfig} (hvalid : c.validate = .ok ())
    (hname : isHeaderValue c.engine.sessions.cookieName = true) (calls : List Call) (now : Instant) (u : Uuid)
    (stub : StubId) {m : Message} (hstub : AdminRoute.ofMessage? m = none)
    (hanonymous : c.engine.sessions.Anonymous m.toRequest) :
    let minting := answer ((Engine.new c.engine).after calls) now ⟨.ofUuid u, stub⟩ m
    let cookie := sessionCookie c.engine.sessions.cookieName u.render
    minting.1.headers.getLast? = some ("set-cookie", cookie) ∧
      ∀ (later : List Call) (now' : Instant) (u' : Uuid) (stub' : StubId) (m' : Message),
        AdminRoute.ofMessage? m' = none →
        (∀ token, m'.requestHeaders.get? c.engine.sessions.headerName = some token → token = "") →
        m'.values "cookie" = [Utf8.encode (cookiePair cookie)] →
        let e := minting.2.after later
        let reply := (answer e now' ⟨.ofUuid u', stub'⟩ m').1
        if Cookies.IsPlain c.engine.sessions.cookieName then
          e.resolveSession (.ofUuid u') m'.toRequest = ⟨.ofUuid u, .cookie⟩ ∧
            reply = .ofStub (e.matchIn now' (.ofUuid u) m'.toRequest).1
        else
          e.resolveSession (.ofUuid u') m'.toRequest = ⟨.ofUuid u', .minted⟩ ∧
            reply = (Reply.ofStub (e.matchIn now' (.ofUuid u') m'.toRequest).1).withCookie
              (sessionCookie c.engine.sessions.cookieName u'.render) := by
  have hconfig : ((Engine.new c.engine).after calls).config = c.engine := Engine.after_config _ calls
  generalize (Engine.new c.engine).after calls = e at hconfig
  -- Neither the request nor any later operation changes the settings.
  have hkept := (config_answer_of_stub hstub e now ⟨.ofUuid u, stub⟩).trans hconfig
  constructor
  · have hsession : e.resolveSession (.ofUuid u) m.toRequest = ⟨.ofUuid u, .minted⟩ :=
      Engine.resolveSession_of_anonymous (hconfig.symm ▸ hanonymous)
    have hreply := answer_of_minted now ⟨.ofUuid u, stub⟩ hstub hsession (hconfig.symm ▸ hname) rfl
    rw [hreply, hconfig]
    exact List.getLast?_concat
  · intro later now' u' stub' m' hstub' hheader hcookie
    have hlater : ((answer e now ⟨.ofUuid u, stub⟩ m).2.after later).config = c.engine :=
      (Engine.after_config _ later).trans hkept
    exact answer_to_cookiePair now' ⟨.ofUuid u', stub'⟩ (congrArg EngineConfig.sessions hlater) hanonymous.aware
      (ServerConfig.cookieName_ne_empty hvalid) hname rfl hstub' hheader hcookie

/-- The client of a default server asks twice, the second time with the cookie of the first answer. -/
theorem cookie_continues_session_iff_of_default :
    let u : Uuid := .random 1
    let u' : Uuid := .random 2
    let first : Message := { method := "GET", target := ⟨"/x", none⟩ }
    let cookie := sessionCookie "WireMockSessionId" u.render
    let second : Message := { first with headers := [("cookie", Utf8.encode (cookiePair cookie))] }
    let minting := answer (.new {}) ⟨0⟩ ⟨.ofUuid u, .random 3⟩ first
    (({} : ServerConfig).validate = .ok () ∧ isHeaderValue "WireMockSessionId" = true ∧
        AdminRoute.ofMessage? first = none ∧ ({} : SessionSettings).Anonymous first.toRequest) ∧
      minting.1.headers.getLast? = some ("set-cookie", cookie) ∧
      minting.2.resolveSession (.ofUuid u') second.toRequest = ⟨.ofUuid u, .cookie⟩ ∧
      (answer minting.2 ⟨1⟩ ⟨.ofUuid u', .random 4⟩ second).1 =
        .ofStub (minting.2.matchIn ⟨1⟩ (.ofUuid u) second.toRequest).1 := by
  intro u u' first cookie second minting
  have hvalid : ({} : ServerConfig).validate = .ok () := by decide
  have hname : isHeaderValue "WireMockSessionId" = true := by decide
  have hstub : AdminRoute.ofMessage? first = none := by decide
  have hanonymous : ({} : SessionSettings).Anonymous first.toRequest := ⟨rfl, nofun, nofun⟩
  have hplain : Cookies.IsPlain "WireMockSessionId" := by decide
  have hheader : second.requestHeaders.get? "X-WireMock-Session-Id" = none := by decide +kernel
  have hwritten : second.values "cookie" = [Utf8.encode (cookiePair cookie)] := by decide +kernel
  obtain ⟨hcookie, hlater⟩ := cookie_continues_session_iff hvalid hname [] ⟨0⟩ u (.random 3) hstub hanonymous
  have hsecond := hlater [] ⟨1⟩ u' (.random 4) second (by decide)
    (fun _ htoken => nomatch hheader.symm.trans htoken) hwritten
  rw [if_pos hplain] at hsecond
  exact ⟨⟨hvalid, hname, hstub, hanonymous⟩, hcookie, hsecond⟩

/-- Under the usable cookie name `a=b` a session is not continued: the client sends back what it was handed out, and a
second session is minted for it and handed out. -/
theorem session_not_continued_under_a_equals_b :
    let config : ServerConfig := { engine := { sessions := { cookieName := "a=b" } } }
    let u : Uuid := .random 1
    let u' : Uuid := .random 2
    let first : Message := { method := "GET", target := ⟨"/x", none⟩ }
    let cookie := sessionCookie "a=b" u.render
    let second : Message := { first with headers := [("cookie", Utf8.encode (cookiePair cookie))] }
    let minting := answer (.new config.engine) ⟨0⟩ ⟨.ofUuid u, .random 3⟩ first
    let continuing := answer minting.2 ⟨1⟩ ⟨.ofUuid u', .random 4⟩ second
    (config.validate = .ok () ∧ isHeaderValue "a=b" = true ∧ AdminRoute.ofMessage? first = none ∧
        config.engine.sessions.Anonymous first.toRequest) ∧
      minting.1.headers.getLast? = some ("set-cookie", cookie) ∧
      minting.2.resolveSession (.ofUuid u') second.toRequest = ⟨.ofUuid u', .minted⟩ ∧
      continuing.1.headers.getLast? = some ("set-cookie", sessionCookie "a=b" u'.render) ∧ u ≠ u' := by
  intro config u u' first cookie second minting continuing
  have hvalid : config.validate = .ok () := by decide
  have hname : isHeaderValue "a=b" = true := by decide
  have hstub : AdminRoute.ofMessage? first = none := by decide
  have hanonymous : config.engine.sessions.Anonymous first.toRequest := ⟨rfl, nofun, nofun⟩
  have hfirst : (Engine.new config.engine).resolveSession (.ofUuid u) first.toRequest = ⟨.ofUuid u, .minted⟩ :=
    Engine.resolveSession_of_anonymous hanonymous
  have hminting := answer_of_minted ⟨0⟩ ⟨.ofUuid u, .random 3⟩ hstub hfirst hname rfl
  have hkept : minting.2.config = config.engine := config_answer_of_stub hstub _ _ _
  have hheader : second.requestHeaders.get? "X-WireMock-Session-Id" = none := by decide +kernel
  have hwritten : second.values "cookie" = [Utf8.encode (cookiePair cookie)] := by decide +kernel
  have hcontinuing := answer_to_cookiePair ⟨1⟩ ⟨.ofUuid u', .random 4⟩
    (congrArg EngineConfig.sessions hkept) rfl (by decide) hname rfl (by decide)
    (fun _ htoken => nomatch hheader.symm.trans htoken) hwritten
  rw [if_neg (by decide)] at hcontinuing
  refine ⟨⟨hvalid, hname, hstub, hanonymous⟩, ?_, hcontinuing.1, ?_, by decide⟩
  · rw [hminting]
    exact List.getLast?_concat
  · rw [hcontinuing.2]
    exact List.getLast?_concat

end Http

end ScenarioStubs
