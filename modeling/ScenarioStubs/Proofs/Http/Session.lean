import ScenarioStubs.Proofs.Http.Server
import ScenarioStubs.Proofs.Session.Resolver

/-!
# The session of a message

A message presents a session by a session header or a session cookie (`Presents`). Where sessions are told apart it is
served in that session, which is not minted for it (`resolveSession_of_presents`), and administration acts on that
session (`sessionOf_of_presents`).
-/

namespace ScenarioStubs.Http

/-- The message presents a session: its first session header names it, or that is missing or empty and its session
cookie names it. -/
def Presents (c : SessionSettings) (m : Message) (s : SessionId) : Prop :=
  m.requestHeaders.get? c.headerName = some s.token ∨
    (∀ token, m.requestHeaders.get? c.headerName = some token → token = "") ∧
      (Cookies.ofHeaders m.requestHeaders).get? c.cookieName = some s.token

variable {e : Engine} {m : Message} {s : SessionId}

theorem presented?_of_presents (h : Presents e.config.sessions m s) :
    (e.resolver.presented? m.requestHeaders (Cookies.ofHeaders m.requestHeaders)).map (·.id) = some s :=
  Resolver.presented?_id_eq_some_iff.mpr h

/-- Administration acts on the session that a message presents. -/
theorem sessionOf_of_presents (haware : e.config.sessions.sessionAware = true)
    (h : Presents e.config.sessions m s) : sessionOf e m = s := by
  have haware : e.resolver.sessionAware = true := haware
  obtain ⟨p, hp, hid⟩ := Option.map_eq_some_iff.mp (presented?_of_presents h)
  exact (Resolver.resolve_of_presented haware hp s).2.trans hid

/-- A stub request belongs to the session that it presents, which is not minted for it. -/
theorem resolveSession_of_presents (haware : e.config.sessions.sessionAware = true)
    (h : Presents e.config.sessions m s) (fresh : SessionId) : (e.resolveSession fresh m.toRequest).id = s ∧
      (e.resolveSession fresh m.toRequest).isEphemeral = false := by
  have haware : e.resolver.sessionAware = true := haware
  obtain ⟨p, hp, hid⟩ := Option.map_eq_some_iff.mp (presented?_of_presents h)
  have hp : e.resolver.presented? m.toRequest.headers m.toRequest.cookies = some p := hp
  unfold Engine.resolveSession
  rw [(Resolver.resolve_of_presented haware hp fresh).1]
  exact ⟨hid, Resolver.not_isEphemeral_of_presented? hp⟩

end ScenarioStubs.Http
