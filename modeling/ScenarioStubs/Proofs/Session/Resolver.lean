import ScenarioStubs.Session.Resolver

/-!
# Which session a request is given

A token names a session unless it is empty (`SessionId.ofToken?_eq_some_iff`, `SessionId.ofToken?_eq_none_iff`), so a
request presents no session if its session header and its session cookie are empty or missing
(`Resolver.presented?_eq_none_iff`). Where sessions are told apart, a request is given the session that it presents
(`Resolver.resolve_of_presented`) or one that is minted for it (`Resolver.resolve_of_not_presented`), else the shared
one (`Resolver.resolve_of_unaware`).
-/

namespace ScenarioStubs

namespace SessionId

variable {token : String} {s : SessionId}

theorem ofToken?_eq_none_iff : ofToken? token = none ↔ token = "" := by
  unfold ofToken?
  split <;> simp_all

theorem ofToken?_eq_some_iff : ofToken? token = some s ↔ token = s.token := by
  unfold ofToken?
  constructor
  · intro h
    split at h
    · exact congrArg SessionId.token (Option.some.inj h)
    · cases h
  · rintro rfl
    rw [dif_pos s.nonempty]

theorem exists_ofToken? (h : token ≠ "") : ∃ s : SessionId, s.token = token ∧ ofToken? token = some s :=
  ⟨⟨token, h⟩, rfl, dif_pos h⟩

end SessionId

namespace Resolver

variable {c : Resolver} {headers : Headers} {cookies : Cookies}

/-! ## What a request presents -/

/-- Without a session in the session header the session cookie decides. -/
theorem presented?_of_no_header (h : (headers.get? c.headerName).bind SessionId.ofToken? = none) :
    c.presented? headers cookies = ((cookies.get? c.cookieName).bind SessionId.ofToken?).map (⟨·, .cookie⟩) := by
  unfold presented?
  rw [h]
  rfl

/-- A request names no session if the first value of the session header and that of the session cookie are empty or
missing. -/
theorem presented?_eq_none_iff : c.presented? headers cookies = none ↔
    (∀ token, headers.get? c.headerName = some token → token = "") ∧
      ∀ token, cookies.get? c.cookieName = some token → token = "" := by
  unfold presented?
  simp [Option.bind_eq_none_iff, SessionId.ofToken?_eq_none_iff]

/-- A request presents the session that its first session header names, or, if that is missing or empty, the one that
its session cookie names. -/
theorem presented?_id_eq_some_iff {s : SessionId} :
    (c.presented? headers cookies).map (·.id) = some s ↔
      headers.get? c.headerName = some s.token ∨
        (∀ token, headers.get? c.headerName = some token → token = "") ∧ cookies.get? c.cookieName = some s.token := by
  have hid : (c.presented? headers cookies).map (·.id) = ((headers.get? c.headerName).bind SessionId.ofToken?).or
      ((cookies.get? c.cookieName).bind SessionId.ofToken?) := by
    unfold presented?
    rw [Option.orElse_eq_orElse, Option.orElse_eq_or, Option.map_or, Option.map_map, Option.map_map]
    show (Option.map (fun s => s) _).or (Option.map (fun s => s) _) = _
    rw [Option.map_id', Option.map_id']
  rw [hid, Option.or_eq_some_iff]
  simp only [Option.bind_eq_some_iff, Option.bind_eq_none_iff, SessionId.ofToken?_eq_some_iff,
    SessionId.ofToken?_eq_none_iff, exists_eq_right]

theorem not_isEphemeral_of_presented? {p : ResolvedSession} (h : c.presented? headers cookies = some p) :
    p.isEphemeral = false := by
  unfold presented? at h
  rw [Option.orElse_eq_orElse, Option.orElse_eq_or, Option.or_eq_some_iff] at h
  obtain h | ⟨-, h⟩ := h
  · obtain ⟨id, -, rfl⟩ := Option.map_eq_some_iff.mp h
    rfl
  · obtain ⟨id, -, rfl⟩ := Option.map_eq_some_iff.mp h
    rfl

/-! ## What it is given -/

/-- Where sessions are told apart, a request belongs to the session that it presents. -/
theorem resolve_of_presented {p : ResolvedSession} (haware : c.sessionAware = true)
    (h : c.presented? headers cookies = some p) (fresh : SessionId) :
    c.resolve fresh headers cookies = p ∧ c.resolvePresented headers cookies = p.id := by
  unfold resolve resolvePresented
  rw [if_pos haware, if_pos haware, h]
  exact ⟨rfl, rfl⟩

/-- Where sessions are told apart, a session is minted for a request that presents none, and administration acts on
the shared one. -/
theorem resolve_of_not_presented (haware : c.sessionAware = true) (h : c.presented? headers cookies = none)
    (fresh : SessionId) :
    c.resolve fresh headers cookies = ⟨fresh, .minted⟩ ∧ c.resolvePresented headers cookies = .global := by
  unfold resolve resolvePresented
  rw [if_pos haware, if_pos haware, h]
  exact ⟨rfl, rfl⟩

/-- Where sessions are not told apart, every request belongs to the shared one. -/
theorem resolve_of_unaware (h : c.sessionAware = false) (fresh : SessionId) (headers : Headers) (cookies : Cookies) :
    c.resolve fresh headers cookies = ⟨.global, .global⟩ ∧ c.resolvePresented headers cookies = .global := by
  unfold resolve resolvePresented
  rw [h]
  exact ⟨rfl, rfl⟩

/-- A request presents its session, or has it minted, or belongs to the shared one. -/
theorem resolve_cases (c : Resolver) (fresh : SessionId) (headers : Headers) (cookies : Cookies) :
    (∃ p, c.sessionAware = true ∧ c.presented? headers cookies = some p ∧ c.resolve fresh headers cookies = p) ∨
      (c.sessionAware = true ∧ c.presented? headers cookies = none ∧
        c.resolve fresh headers cookies = ⟨fresh, .minted⟩) ∨
      (c.sessionAware = false ∧ c.resolve fresh headers cookies = ⟨.global, .global⟩) := by
  cases haware : c.sessionAware with
  | false => exact .inr (.inr ⟨rfl, (resolve_of_unaware haware fresh headers cookies).1⟩)
  | true =>
    cases hp : c.presented? headers cookies with
    | none => exact .inr (.inl ⟨rfl, rfl, (resolve_of_not_presented haware hp fresh).1⟩)
    | some p => exact .inl ⟨p, rfl, rfl, (resolve_of_presented haware hp fresh).1⟩

end Resolver

end ScenarioStubs
