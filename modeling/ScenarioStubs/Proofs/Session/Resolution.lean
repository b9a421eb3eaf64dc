import ScenarioStubs.Proofs.Session.Cookies
import ScenarioStubs.Proofs.Session.Resolver

/-!
# The session of a list of headers

A list of headers has two places that may name a session: the first header with the name of the session header
(`Headers.first?`) and, over all `Cookie` headers, the first segment with the name of the session cookie
(`Headers.firstCookie?`). They are what looking into the headers and into the jar of their cookies finds
(`Headers.get?_eq_first?`, `Cookies.get?_ofHeaders_eq_firstCookie?`); an empty value names no session
(`Resolver.headerSignal?`, `Resolver.cookieSignal?`).

Together: `Resolver.resolve_of_signals`.
-/

namespace ScenarioStubs

/-! ## What the headers say -/

/-- The value of the first header with a name, up to the case of ASCII letters. -/
def Headers.first? (headers : Headers) (name : String) : Option String :=
  (headers.entries.find? fun entry => Text.sameIgnoringCase entry.1 name).map (·.2)

/-- The segments between the semicolons of all `Cookie` headers, in wire order. -/
def Headers.cookieSegments (headers : Headers) : List (List Char) :=
  (headers.getAll "cookie").flatMap fun value => Text.splitAll ';' value.toList

/-- The value of a segment if the name before its first equals sign, trimmed of white space, is the given one: what
comes after that sign, trimmed of white space and then of double quotes. -/
def Cookies.valueUnder? (name : String) (segment : List Char) : Option String :=
  (Text.splitFirst? '=' segment).bind fun (before, after) =>
    if Text.trim before = name.toList then some (String.ofList (Text.trimBoth (· == '"') (Text.trim after))) else none

/-- The value of the first segment with a name, over all `Cookie` headers. -/
def Headers.firstCookie? (headers : Headers) (name : String) : Option String :=
  headers.cookieSegments.findSome? (Cookies.valueUnder? name)

theorem Headers.get?_eq_first? (headers : Headers) (name : String) : headers.get? name = headers.first? name := by
  unfold get? getAll first?
  rw [List.head?_map, List.head?_filter]

namespace Cookies

variable {name : String}

/-- A segment has a value under a name if it holds a cookie with that name. -/
theorem valueUnder?_eq (hname : name ≠ "") (segment : List Char) :
    valueUnder? name segment = (ofSegment? segment).bind fun pair => if pair.1 = name then some pair.2 else none := by
  unfold valueUnder? ofSegment?
  cases Text.splitFirst? '=' segment with
  | none => rfl
  | some parts =>
    obtain ⟨before, after⟩ := parts
    have hiff : Text.trim before = name.toList ↔ String.ofList (Text.trim before) = name := by
      rw [← String.toList_inj, String.toList_ofList]
    rw [Option.bind_some, Option.bind_eq_bind, Option.bind_some]
    dsimp only
    by_cases hblank : (Text.trim before).isEmpty = true
    · -- a blank name holds no cookie, and it is not the name looked for
      have hne : Text.trim before ≠ name.toList := by
        rw [List.isEmpty_iff.mp hblank]
        exact fun h => hname (String.toList_inj.mp h.symm)
      rw [if_neg hne, if_pos hblank]
      rfl
    · rw [if_neg hblank, Option.bind_some]
      simp only [hiff]

/-- Looking up a name among the cookies that segments hold is looking for the first segment with that name. -/
theorem lookup_filterMap_ofSegment? (hname : name ≠ "") (segments : List (List Char)) :
    (segments.filterMap ofSegment?).lookup name = segments.findSome? (valueUnder? name) := by
  induction segments with
  | nil => rfl
  | cons segment rest ih =>
    rw [List.findSome?_cons, valueUnder?_eq hname, List.filterMap_cons]
    cases ofSegment? segment with
    | none => exact ih
    | some pair =>
      obtain ⟨name', value⟩ := pair
      rw [Option.bind_some]
      by_cases h : name' = name
      · subst h
        rw [if_pos rfl]
        exact List.lookup_cons_self
      · rw [if_neg h, ← ih]
        dsimp only
        rw [List.lookup_cons, beq_false_of_ne (Ne.symm h)]

/-- The cookie read under a name is the first that is written under it. -/
theorem get?_ofHeaders_eq_firstCookie? (hname : name ≠ "") (headers : Headers) :
    (ofHeaders headers).get? name = headers.firstCookie? name := by
  rw [get?_ofHeaders, Headers.firstCookie?, Headers.cookieSegments, ← lookup_filterMap_ofSegment? hname,
    List.filterMap_flatMap]
  rfl

end Cookies

/-! ## The session they name -/

/-- An empty value names no session. -/
theorem SessionId.bind_ofToken?_filter (value : Option String) :
    (value.filter (· ≠ "")).bind SessionId.ofToken? = value.bind SessionId.ofToken? := by
  cases value with
  | none => rfl
  | some token =>
    by_cases h : token = ""
    · subst h
      rfl
    · rw [Option.filter_some, if_pos (decide_eq_true h)]

namespace Resolver

variable {r : Resolver} {headers : Headers} {v : String}

/-- The value of the first session header, if it is not empty. -/
def headerSignal? (r : Resolver) (headers : Headers) : Option String :=
  (headers.first? r.headerName).filter (· ≠ "")

/-- The value of the first session cookie, if it is not empty. -/
def cookieSignal? (r : Resolver) (headers : Headers) : Option String :=
  (headers.firstCookie? r.cookieName).filter (· ≠ "")

theorem presented?_of_headerSignal (h : r.headerSignal? headers = some v) :
    ∃ s : SessionId, s.token = v ∧ ∀ cookies, r.presented? headers cookies = some ⟨s, .header⟩ := by
  obtain ⟨hfirst, hne⟩ := Option.filter_eq_some_iff.mp h
  obtain ⟨s, hs, htoken⟩ := SessionId.exists_ofToken? (of_decide_eq_true hne)
  refine ⟨s, hs, fun cookies => ?_⟩
  unfold presented?
  rw [Headers.get?_eq_first?, hfirst, Option.bind_some, htoken]
  rfl

/-- Without a value in the first session header the session cookie decides. -/
theorem presented?_of_no_headerSignal (hname : r.cookieName ≠ "") (h : r.headerSignal? headers = none) :
    r.presented? headers (.ofHeaders headers) =
      ((r.cookieSignal? headers).bind SessionId.ofToken?).map (⟨·, .cookie⟩) := by
  have hheader : (headers.get? r.headerName).bind SessionId.ofToken? = none := by
    rw [Headers.get?_eq_first?, ← SessionId.bind_ofToken?_filter]
    exact congrArg (Option.bind · SessionId.ofToken?) h
  unfold cookieSignal?
  rw [presented?_of_no_header hheader, SessionId.bind_ofToken?_filter, Cookies.get?_ofHeaders_eq_firstCookie? hname]

theorem presented?_of_cookieSignal (hname : r.cookieName ≠ "") (hheader : r.headerSignal? headers = none)
    (h : r.cookieSignal? headers = some v) :
    ∃ s : SessionId, s.token = v ∧ r.presented? headers (.ofHeaders headers) = some ⟨s, .cookie⟩ := by
  obtain ⟨-, hne⟩ := Option.filter_eq_some_iff.mp h
  obtain ⟨s, hs, htoken⟩ := SessionId.exists_ofToken? (of_decide_eq_true hne)
  refine ⟨s, hs, ?_⟩
  rw [presented?_of_no_headerSignal hname hheader, h, Option.bind_some, htoken]
  rfl

/-- What a request presents is what its two signals say. -/
theorem presented?_congr {headers' : Headers} (hname : r.cookieName ≠ "")
    (hheader : r.headerSignal? headers' = r.headerSignal? headers)
    (hcookie : r.headerSignal? headers = none → r.cookieSignal? headers' = r.cookieSignal? headers) :
    r.presented? headers' (.ofHeaders headers') = r.presented? headers (.ofHeaders headers) := by
  cases h : r.headerSignal? headers with
  | none =>
    rw [presented?_of_no_headerSignal hname (hheader.trans h), presented?_of_no_headerSignal hname h, hcookie h]
  | some v =>
    obtain ⟨s, hs, hpresented⟩ := presented?_of_headerSignal h
    obtain ⟨s', hs', hpresented'⟩ := presented?_of_headerSignal (hheader.trans h)
    rw [hpresented, hpresented', SessionId.ext (hs'.trans hs.symm)]

/-- **The session of a list of headers.** Let sessions be told apart and the session cookie have a name. If the first
session header has a value, it is the session of the request, whatever the cookies are; else, if the first session
cookie has a value, that is the session; else one is minted, and administration acts on the shared one. Nothing else in
the headers matters. -/
theorem resolve_of_signals (r : Resolver) (haware : r.sessionAware = true) (hname : r.cookieName ≠ "")
    (fresh : SessionId) (headers : Headers) :
    (∀ v, r.headerSignal? headers = some v → ∃ s : SessionId, s.token = v ∧ ∀ cookies,
        r.resolve fresh headers cookies = ⟨s, .header⟩ ∧ r.resolvePresented headers cookies = s) ∧
      (r.headerSignal? headers = none → ∀ v, r.cookieSignal? headers = some v → ∃ s : SessionId, s.token = v ∧
        r.resolve fresh headers (.ofHeaders headers) = ⟨s, .cookie⟩ ∧
          r.resolvePresented headers (.ofHeaders headers) = s) ∧
      (r.headerSignal? headers = none → r.cookieSignal? headers = none →
        r.resolve fresh headers (.ofHeaders headers) = ⟨fresh, .minted⟩ ∧
          r.resolvePresented headers (.ofHeaders headers) = .global) ∧
      ∀ headers', r.headerSignal? headers' = r.headerSignal? headers →
        (r.headerSignal? headers = none → r.cookieSignal? headers' = r.cookieSignal? headers) →
        r.resolve fresh headers' (.ofHeaders headers') = r.resolve fresh headers (.ofHeaders headers) ∧
          r.resolvePresented headers' (.ofHeaders headers') = r.resolvePresented headers (.ofHeaders headers) := by
  refine ⟨fun v h => ?header, fun hheader v h => ?cookie, fun hheader h => ?minted,
    fun headers' hheader hcookie => ?alike⟩
  case header =>
    obtain ⟨s, hs, hpresented⟩ := presented?_of_headerSignal h
    exact ⟨s, hs, fun cookies => resolve_of_presented haware (hpresented cookies) fresh⟩
  case cookie =>
    obtain ⟨s, hs, hpresented⟩ := presented?_of_cookieSignal hname hheader h
    exact ⟨s, hs, resolve_of_presented haware hpresented fresh⟩
  case minted =>
    refine resolve_of_not_presented haware ?_ fresh
    rw [presented?_of_no_headerSignal hname hheader, h]
    rfl
  case alike =>
    unfold resolve resolvePresented
    rw [presented?_congr hname hheader hcookie]
    exact ⟨rfl, rfl⟩

/-- The first session header is empty, so the later one does not count; `SID` is another cookie, the segment `sid` has
no value, and of the two cookies `sid` the first counts, without the quotes around it. -/
theorem resolve_of_signals_of_cookie :
    let r : Resolver := { headerName := "X-Session", cookieName := "sid" }
    let headers : Headers := ⟨[("x-session", ""), ("Cookie", "SID=no; sid"), ("X-SESSION", "late"),
      ("COOKIE", "a=1; sid = \"q=1\" ; sid=2")]⟩
    let headers' : Headers := ⟨[("cookie", "sid=\"\"q=1")]⟩
    let s : SessionId := ⟨"q=1", by decide⟩
    r.resolve ⟨"m", by decide⟩ headers (.ofHeaders headers) = ⟨s, .cookie⟩ ∧
      r.resolvePresented headers (.ofHeaders headers) = s ∧
      r.resolve ⟨"m", by decide⟩ headers' (.ofHeaders headers') = ⟨s, .cookie⟩ := by
  intro r headers headers' s
  have hheader : r.headerSignal? headers = none := by
    unfold headerSignal? Headers.first?
    simp only [Text.sameIgnoringCase_eq]
    decide +kernel
  have hcookie : r.cookieSignal? headers = some "q=1" := by
    unfold cookieSignal? Headers.firstCookie? Headers.cookieSegments Headers.getAll
    simp only [Text.sameIgnoringCase_eq]
    decide +kernel
  have hheader' : r.headerSignal? headers' = none := by decide +kernel
  have hcookie' : r.cookieSignal? headers' = some "q=1" := by
    unfold cookieSignal? Headers.firstCookie? Headers.cookieSegments Headers.getAll
    simp only [Text.sameIgnoringCase_eq]
    decide +kernel
  obtain ⟨-, hread, -, halike⟩ := resolve_of_signals r rfl (by decide) ⟨"m", by decide⟩ headers
  obtain ⟨s', hs', hresolve, hpresented⟩ := hread hheader "q=1" hcookie
  have hs : s' = s := SessionId.ext hs'
  obtain ⟨halike, -⟩ := halike headers' (hheader'.trans hheader.symm) fun _ => hcookie'.trans hcookie.symm
  rw [hs] at hresolve hpresented
  exact ⟨hresolve, hpresented, halike.trans hresolve⟩

end Resolver

end ScenarioStubs
