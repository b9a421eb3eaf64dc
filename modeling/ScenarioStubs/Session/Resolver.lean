import ScenarioStubs.Session.Cookies
import ScenarioStubs.Session.Id

/-!
# Which session a request belongs to

A request names its session by a header or, without a non-empty one, by a cookie (`Resolver.presented?`). A request
that names none is given a session minted for it (`Resolver.resolve`), or the shared session where minting makes no
sense (`Resolver.resolvePresented`).
-/

namespace ScenarioStubs

/-- Where the session of a request came from. -/
inductive SessionSource
  | header
  | cookie
  /-- No signal was presented and the session was made for this request. -/
  | minted
  /-- Sessions are not told apart. -/
  | global
  deriving DecidableEq

/-- The session of a request and where it came from. -/
structure ResolvedSession where
  id : SessionId
  source : SessionSource
  deriving DecidableEq

/-- Whether the session was minted for the request. -/
def ResolvedSession.isEphemeral (s : ResolvedSession) : Bool := s.source == .minted

/-- How sessions are read off requests. -/
structure Resolver where
  headerName : String := "X-WireMock-Session-Id"
  cookieName : String := "WireMockSessionId"
  sessionAware : Bool := true
  deriving DecidableEq

namespace Resolver

/-- Every request belongs to the shared session. -/
def globalOnly : Resolver := { sessionAware := false }

/-- The session a request presents: that of the session header if its first value is not empty, else that of the
session cookie if its value is not empty. -/
def presented? (r : Resolver) (headers : Headers) (cookies : Cookies) : Option ResolvedSession :=
  ((headers.get? r.headerName).bind SessionId.ofToken?).map (⟨·, .header⟩) <|>
    ((cookies.get? r.cookieName).bind SessionId.ofToken?).map (⟨·, .cookie⟩)

/-- The session of a request; one that presents none gets the session `fresh`. -/
def resolve (r : Resolver) (fresh : SessionId) (headers : Headers) (cookies : Cookies) : ResolvedSession :=
  if r.sessionAware then (r.presented? headers cookies).getD ⟨fresh, .minted⟩ else ⟨.global, .global⟩

/-- The session of a request, the shared one if it presents none. -/
def resolvePresented (r : Resolver) (headers : Headers) (cookies : Cookies) : SessionId :=
  if r.sessionAware then ((r.presented? headers cookies).map (·.id)).getD .global else .global

end Resolver

end ScenarioStubs
