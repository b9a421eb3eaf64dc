import ScenarioStubs.Engine.Selection
import ScenarioStubs.Engine.Stats
import ScenarioStubs.Scenario.Cells

/-!
# The engine

An engine answers requests with stubs. A request belongs to a session; the mappings whose predicates admit it are its
candidates; of those whose required state is the state of their scenario in that session, the best is served, and its
scenario moves to its new state (`Engine.matchIn`). A session minted for a request is marked until a client presents it
(`Engine.serve`), and every so many mints the expired sessions are dropped.

The clock and fresh identifiers are arguments, so that an engine is a value and a request a step from one to the next.
-/

namespace ScenarioStubs

/-- An engine: its settings, the registered mappings, the states of scenarios, and its counters. -/
structure Engine where
  config : EngineConfig
  registry : Registry := .empty
  store : Store := .empty
  stats : Stats := {}

/-- A stub that was chosen, and its response. -/
structure ServedStub where
  id : StubId
  response : ResponseTemplate

/-- The answer to a request: its session and the stub that was chosen, if there was one. -/
structure ServeEvent where
  session : ResolvedSession
  stub : Option ServedStub

namespace Engine

/-- An engine without mappings and states. -/
def new (config : EngineConfig) : Engine := { config }

/-- How sessions are read off requests. -/
def resolver (e : Engine) : Resolver := e.config.sessions.resolver

/-- The session of a request. -/
def resolveSession (e : Engine) (fresh : SessionId) (r : Request) : ResolvedSession :=
  e.resolver.resolve fresh r.headers r.cookies

/-! ## Expiry -/

/-- The number of sessions that have expired, and the engine without them: minted sessions after their own lifetime,
then sessions after the general one, if there is one. -/
def evictExpired (e : Engine) (now : Instant) : Nat × Engine :=
  let (minted, store) := e.store.evictMinted now e.config.sessions.mintedLimit
  match e.config.sessions.idleLimit with
  | some limit =>
    let (idle, store) := store.evictIdle now limit
    (minted + idle, { e with store })
  | none => (minted, { e with store })

/-! ## Matching -/

/-- The mappings whose predicates admit a request, with their places. -/
def candidates (registry : Registry) (r : Request) : List Candidate :=
  (registry.mappings.zipIdx.filter fun (m, _) => m.predicate.evaluate r matches .ok true).map fun (m, rank) => ⟨rank, m⟩

/-- The number of mappings whose predicates give no verdict on a request. -/
def malformedCount (registry : Registry) (r : Request) : Nat :=
  registry.mappings.countP fun m => m.predicate.evaluate r matches .error _

/-- Whether the state that a mapping requires is the state of its scenario. -/
def gateOpen (cells : Cells) (m : StubMapping) : Bool :=
  match m.scenario with
  | none => true
  | some rule =>
    match rule.requiredState with
    | none => true
    | some required => cells.state? rule.name == some required

/-- The cells after a mapping was served, and whether a scenario was put into a new state. -/
def transition (cells : Cells) (m : StubMapping) : Bool × Cells :=
  match m.scenario with
  | none => (false, cells)
  | some rule =>
    match rule.newState with
    | none => (false, cells)
    | some next =>
      let (previous, cells) := cells.set rule.name next
      (previous.isSome, cells)

/-- The stub chosen for a request in a given session, and the engine after it. -/
def matchIn (e : Engine) (now : Instant) (s : SessionId) (r : Request) : Option ServedStub × Engine :=
  let found := candidates e.registry r
  let stats := { e.stats with malformed := e.stats.malformed + malformedCount e.registry r }
  if found.isEmpty then (none, { e with stats := { stats with unmatched := stats.unmatched + 1 } })
  else
    let (cells, store) := e.store.hold now s (found.filterMap (·.mapping.scenarioName))
    match e.config.selection.best? e.registry.size (found.filter fun c => gateOpen cells c.mapping) with
    | none => (none, { e with store, stats := { stats with unmatched := stats.unmatched + 1 } })
    | some chosen =>
      let (moved, cells) := transition cells chosen.mapping
      (some ⟨chosen.mapping.id, chosen.mapping.response⟩,
        { e with
          store := store.release cells
          stats := { stats with
            served := stats.served + 1
            transitions := stats.transitions + if moved then 1 else 0 } })

/-- The number of mints between two sweeps. -/
def sweepEvery : Nat := 1024

/-- The engine after a session was minted for a request that has just been matched: the session is marked, and every
so many mints the expired sessions are dropped. The sweep reads the clock anew. -/
def recordMinted (e : Engine) (now : Instant) (s : SessionId) : Engine :=
  let minted := e.stats.minted + 1
  let e := { e with store := e.store.markMinted s, stats := { e.stats with minted } }
  if minted % sweepEvery = 0 then (e.evictExpired now.next).2 else e

/-- The answer to a request, and the engine after it. A request that presents no session gets the session `fresh`; one
that presents a session adopts it. -/
def serve (e : Engine) (now : Instant) (fresh : SessionId) (r : Request) : ServeEvent × Engine :=
  let session := e.resolveSession fresh r
  let (stub, e) := e.matchIn now session.id r
  let e := if session.isEphemeral then e.recordMinted now session.id else { e with store := e.store.adopt session.id }
  (⟨session, stub⟩, e)

end Engine

end ScenarioStubs
