import ScenarioStubs.SortedMap

/-!
# Session identifiers

A session is named by a token, a text of at least one character. Two requests that present the same token belong to
the same session. One token is set apart for the session shared by every request when sessions are not told apart.
-/

namespace ScenarioStubs

/-- A session identifier: a non-empty token, presented by a client or minted for it. -/
structure SessionId where
  token : String
  nonempty : token ≠ ""
  deriving DecidableEq

namespace SessionId

/-- The identifier with a given token; there is none for the empty token. -/
def ofToken? (token : String) : Option SessionId :=
  if h : token ≠ "" then some ⟨token, h⟩ else none

/-- The session that every request shares when sessions are not told apart. -/
def global : SessionId := ⟨"__global__", by decide⟩

/-- Whether this is the shared session. -/
def isGlobal (s : SessionId) : Bool := s.token == "__global__"

@[ext] theorem ext {s t : SessionId} (h : s.token = t.token) : s = t := by
  cases s; cases t; cases h; rfl

theorem isGlobal_iff {s : SessionId} : s.isGlobal = true ↔ s = global := by
  simp [isGlobal, SessionId.ext_iff, global]

/-- Sessions are listed in the order of their tokens. -/
instance : Ord SessionId := ⟨fun s t => compare s.token t.token⟩

instance : Std.TransOrd SessionId where
  eq_swap {s t} := by
    show compare s.token t.token = (compare t.token s.token).swap
    exact Std.OrientedCmp.eq_swap
  isLE_trans {s t u} h h' := by
    have h : (compare s.token t.token).isLE = true := h
    have h' : (compare t.token u.token).isLE = true := h'
    show (compare s.token u.token).isLE = true
    exact Std.TransCmp.isLE_trans h h'

instance : Std.LawfulEqOrd SessionId where
  compare_self {s} := by
    show compare s.token s.token = .eq
    exact Std.ReflCmp.compare_self
  eq_of_compare {s t} h := by
    have h : compare s.token t.token = .eq := h
    exact ext (Std.LawfulEqCmp.eq_of_compare h)

end SessionId

end ScenarioStubs
