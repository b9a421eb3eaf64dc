import ScenarioStubs.Scenario.Store

/-!
# Holding scenarios

A request holds all the scenarios that its candidates depend on while one of them is chosen. `Store.hold` stores the
pairs and hands out their states; `Store.release` writes the states back to the pairs that are still stored.
-/

namespace ScenarioStubs

/-- The held scenarios of a session with their states, ascending by name. -/
structure Cells where
  session : SessionId
  states : SortedMap String String

namespace Cells

/-- The state of a held scenario. -/
def state? (c : Cells) (name : String) : Option String :=
  (c.states.position? name).map fun i => (c.states.entryAt i).2

/-- Puts a held scenario into a state; the state before, if the scenario is held. -/
def set (c : Cells) (name state : String) : Option String × Cells :=
  match c.states.position? name with
  | some i => (some (c.states.entryAt i).2, { c with states := c.states.replaceAt i state })
  | none => (none, c)

/-- The names of the held scenarios, ascending. -/
def names (c : Cells) : List String := c.states.keys

end Cells

namespace Store

/-- The cells of the named scenarios of a session, and the store in which all of them are stored. -/
def hold (st : Store) (now : Instant) (s : SessionId) (names : List String) : Cells × Store :=
  let st := st.touch now s names
  (⟨s, .ofList (names.map fun name => (name, st.effectiveState s name))⟩, st)

/-- The store with held states written back. -/
def release (st : Store) (c : Cells) : Store :=
  c.states.toList.foldl (fun st e => st.write c.session e.1 e.2) st

end Store

end ScenarioStubs
