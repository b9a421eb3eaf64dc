import Std.Data.ExtTreeMap.Basic
import ScenarioStubs.Scenario.State
import ScenarioStubs.Session.Id
import ScenarioStubs.Time

/-!
# The store of scenario states

The store holds, for each session, the states of the scenarios that the session has touched, when it was last touched,
and whether it was minted and not presented by a client since. A pair that is not stored is in the start state
(`effectiveState`). Touching a pair stores it (`touch`); writing changes a stored pair only (`write`).

The sessions can be many, so they are kept in a balanced tree; two stores with the same entries are equal.
-/

namespace ScenarioStubs

/-- What the store holds for a session. -/
structure SessionEntry where
  scenarios : SortedMap String String
  lastSeen : Instant
  minted : Bool
  deriving DecidableEq

/-- Whether a session has been idle for longer than a span. -/
def SessionEntry.idlePast (e : SessionEntry) (now : Instant) (limit : Duration) : Bool :=
  limit.nanos < (now.since e.lastSeen).nanos

/-- The states of scenarios, by session. -/
structure Store where
  sessions : Std.ExtTreeMap SessionId SessionEntry

namespace Store

/-- Nothing stored. -/
def empty : Store := ⟨∅⟩

instance : Inhabited Store := ⟨empty⟩

/-! ## Views -/

/-- The stored state of a pair. -/
def peek (st : Store) (s : SessionId) (name : String) : Option String :=
  st.sessions[s]?.bind (·.scenarios.get? name)

/-- The state of a pair: the stored one, or the start state. -/
def effectiveState (st : Store) (s : SessionId) (name : String) : String := (st.peek s name).getD startState

/-- The stored states of a session, ascending by scenario. -/
def statesFor (st : Store) (s : SessionId) : List (String × String) :=
  match st.sessions[s]? with
  | some e => e.scenarios.toList
  | none => []

/-- The stored sessions other than the shared one, ascending. -/
def activeSessions (st : Store) : List SessionId := st.sessions.keys.filter fun s => !s.isGlobal

/-- The number of stored pairs. -/
def size (st : Store) : Nat := st.sessions.toList.foldr (fun e n => e.2.scenarios.size + n) 0

/-- Whether no session is stored. -/
def isEmpty (st : Store) : Bool := st.sessions.isEmpty

/-- Whether a session was minted and not presented since. -/
def isMinted (st : Store) (s : SessionId) : Bool := st.sessions[s]?.any (·.minted)

/-! ## Changes -/

/-- The store with the entry of a stored session changed. -/
def modify (st : Store) (s : SessionId) (f : SessionEntry → SessionEntry) : Store := ⟨st.sessions.modify s f⟩

/-- The store after a session was seen with some scenarios: each pair that was not stored is stored in the start
state. Without a scenario nothing happens. -/
def touch (st : Store) (now : Instant) (s : SessionId) (names : List String) : Store :=
  if names.isEmpty then st
  else
    let e := st.sessions[s]?.getD ⟨∅, now, false⟩
    ⟨st.sessions.insert s
      { e with scenarios := names.foldl (fun m name => m.insertNew name startState) e.scenarios, lastSeen := now }⟩

/-- The store with the state of a stored pair overwritten. -/
def write (st : Store) (s : SessionId) (name state : String) : Store :=
  st.modify s fun e => if e.scenarios.contains name then { e with scenarios := e.scenarios.insert name state } else e

/-- The state of a pair, which is stored if it was not. -/
def getState (st : Store) (now : Instant) (s : SessionId) (name : String) : String × Store :=
  let st := st.touch now s [name]
  (st.effectiveState s name, st)

/-- The store with a pair put into a state. -/
def setState (st : Store) (now : Instant) (s : SessionId) (name state : String) : Store :=
  (st.touch now s [name]).write s name state

/-- The store with a pair put back into the start state. -/
def resetScenario (st : Store) (now : Instant) (s : SessionId) (name : String) : Store :=
  st.setState now s name startState

/-- The store without a session. -/
def resetSession (st : Store) (s : SessionId) : Store := ⟨st.sessions.erase s⟩

/-- The store without any session. -/
def resetAll (_ : Store) : Store := empty

/-! ## Minted sessions -/

/-- The store with a stored session marked as minted; the shared session never is. -/
def markMinted (st : Store) (s : SessionId) : Store :=
  if s.isGlobal then st else st.modify s fun e => { e with minted := true }

/-- The store with the mark taken off a session that a client has presented. -/
def adopt (st : Store) (s : SessionId) : Store := st.modify s fun e => { e with minted := false }

/-! ## Eviction -/

/-- The number of sessions that satisfy `expired`, and the store without them. -/
def evictWhere (st : Store) (expired : SessionId → SessionEntry → Bool) : Nat × Store :=
  ((st.sessions.filter expired).size, ⟨st.sessions.filter fun s e => !expired s e⟩)

/-- Drops the sessions, other than the shared one, that have been idle for longer than a span. -/
def evictIdle (st : Store) (now : Instant) (limit : Duration) : Nat × Store :=
  st.evictWhere fun s e => !s.isGlobal && e.idlePast now limit

/-- Drops the minted sessions that have been idle for longer than a span. -/
def evictMinted (st : Store) (now : Instant) (limit : Duration) : Nat × Store :=
  st.evictWhere fun _ e => e.minted && e.idlePast now limit

end Store

end ScenarioStubs
