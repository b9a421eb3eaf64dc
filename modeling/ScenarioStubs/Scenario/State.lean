/-!
# States of scenarios

A scenario is a state machine whose states are named by texts. Every scenario begins in one and the same state.
-/

namespace ScenarioStubs

/-- The state of a scenario that no request has moved yet. -/
def startState : String := "Started"

end ScenarioStubs
