import ScenarioStubs.Engine.Config
import ScenarioStubs.Stub.Registry

/-!
# Choosing among candidates

Candidates are ranked by a key of three parts, the smaller the better: whether a required state is missing (when the
policy looks at it), the priority, and the place in the registry, counted from the end if the newest comes first.
-/

namespace ScenarioStubs

/-- A mapping that admits the request, with its place in the registry. -/
structure Candidate where
  rank : Nat
  mapping : StubMapping

/-- What candidates are ranked by. -/
structure SelectionKey where
  ungated : Bool
  priority : UInt32
  order : Nat
  deriving DecidableEq

/-- The lexicographic order of keys; `false` comes before `true`. -/
def SelectionKey.lt (a b : SelectionKey) : Bool :=
  (!a.ungated && b.ungated) ||
    (a.ungated == b.ungated &&
      (a.priority < b.priority || (a.priority == b.priority && a.order < b.order)))

/-- The key of a candidate among the `total` mappings of the registry. -/
def SelectionPolicy.key (p : SelectionPolicy) (total : Nat) (c : Candidate) : SelectionKey where
  ungated := !(p.scenarioStateFirst && c.mapping.isGated)
  priority := c.mapping.priority
  order :=
    match p.insertionOrder with
    | .newestFirst => total - c.rank
    | .oldestFirst => c.rank

/-- The candidate with the smallest key, the first of several. -/
def SelectionPolicy.best? (p : SelectionPolicy) (total : Nat) : List Candidate → Option Candidate
  | [] => none
  | c :: cs => some (cs.foldl (fun best c => if (p.key total c).lt (p.key total best) then c else best) c)

end ScenarioStubs
