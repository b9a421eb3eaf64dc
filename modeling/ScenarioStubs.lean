import ScenarioStubs.Main
import ScenarioStubs.Proofs.Engine.Effect
import ScenarioStubs.Proofs.Engine.Inertness
import ScenarioStubs.Proofs.Engine.Isolation
import ScenarioStubs.Proofs.Engine.Asking
import ScenarioStubs.Proofs.Engine.Eviction
import ScenarioStubs.Proofs.Engine.Commuting
import ScenarioStubs.Proofs.Engine.Anonymous
import ScenarioStubs.Proofs.Engine.Reentry
import ScenarioStubs.Proofs.Engine.MintedMarks
import ScenarioStubs.Proofs.Engine.Counters
import ScenarioStubs.Proofs.Engine.MintedCount
import ScenarioStubs.Proofs.Store.SharedSession
import ScenarioStubs.Proofs.Store.History
import ScenarioStubs.Proofs.Stub.Export
import ScenarioStubs.Proofs.Stub.Arrival
import ScenarioStubs.Proofs.Http.Admin
import ScenarioStubs.Proofs.Http.ScenarioState
import ScenarioStubs.Proofs.Http.SessionCookie
import ScenarioStubs.Proofs.Http.Adoption
import ScenarioStubs.Proofs.Http.SessionHeader
import ScenarioStubs.Proofs.Engine.Mappings
import ScenarioStubs.Proofs.Stub.Validity
import ScenarioStubs.Proofs.Http.StubStatus
import ScenarioStubs.Proofs.Engine.States
import ScenarioStubs.Proofs.Engine.DeclaredStates
import ScenarioStubs.Proofs.Http.EmptyState
import ScenarioStubs.Proofs.Engine.Forgetting
import ScenarioStubs.Proofs.Session.Jar
import ScenarioStubs.Proofs.Session.Resolution
import ScenarioStubs.Proofs.Engine.Summaries
import ScenarioStubs.Proofs.Http.OneSession
import ScenarioStubs.Proofs.Engine.Lifetimes
import ScenarioStubs.Proofs.Http.StubReply
import ScenarioStubs.Proofs.Stub.WholeValue
import ScenarioStubs.Proofs.Stub.Building
import ScenarioStubs.Proofs.Stub.Request
import ScenarioStubs.Proofs.Store.Views
import ScenarioStubs.Proofs.Stub.Mirroring
import ScenarioStubs.Proofs.Store.HeldScenarios
