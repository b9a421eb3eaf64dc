/-!
# Counters
-/

namespace ScenarioStubs

/-- How often something has happened since an engine was made. -/
structure Stats where
  /-- Requests that a stub answered. -/
  served : Nat := 0
  /-- Requests that no stub answered. -/
  unmatched : Nat := 0
  /-- Mappings passed over because their predicate gave no verdict. -/
  malformed : Nat := 0
  /-- Scenarios put into a new state by a served stub. -/
  transitions : Nat := 0
  /-- Sessions minted for requests that presented none. -/
  minted : Nat := 0
  deriving DecidableEq

end ScenarioStubs
