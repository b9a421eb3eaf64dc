import ScenarioStubs.Stub.Pattern

/-!
# Request predicates

What decides whether a stub is a candidate for a request: nothing at all, a pattern, or any function of the request.
-/

namespace ScenarioStubs

/-- A test of requests. -/
inductive Predicate
  /-- Every request passes. -/
  | always
  | pattern (p : RequestPattern)
  | custom (evaluate : Request → Verdict)

namespace Predicate

/-- The verdict of a predicate on a request. -/
def evaluate : Predicate → Request → Verdict
  | .always, _ => .ok true
  | .pattern p, r => p.evaluate r
  | .custom f, r => f r

/-- How a predicate is listed; a function cannot be shown. -/
def describe : Predicate → Json
  | .always => .fields [("method", .text "ANY")]
  | .pattern p => p.toJson
  | .custom _ => .null

end Predicate

end ScenarioStubs
