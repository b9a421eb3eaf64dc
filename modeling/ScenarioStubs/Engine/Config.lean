import ScenarioStubs.Json.Document
import ScenarioStubs.Session.Resolver
import ScenarioStubs.Time

/-!
# Engine settings

How sessions are told apart and how long they live, and which of several candidates is preferred. Every setting has a
default, so a document may give any part of them.
-/

namespace ScenarioStubs

/-- Which of two mappings of equal priority is preferred. -/
inductive InsertionOrder
  | newestFirst
  | oldestFirst
  deriving DecidableEq

namespace InsertionOrder

/-- The name of an order. -/
def name : InsertionOrder → String
  | .newestFirst => "newest_first"
  | .oldestFirst => "oldest_first"

/-- The order with a given name. -/
def ofName? : String → Option InsertionOrder
  | "newest_first" => some .newestFirst
  | "oldest_first" => some .oldestFirst
  | _ => none

/-- The order that a document writes. -/
def decode? {δ : Type} [Document δ] (d : δ) : Option InsertionOrder := (Document.name? d).bind ofName?

end InsertionOrder

/-- How candidates are ranked. -/
structure SelectionPolicy where
  /-- Mappings that require a state come before those that do not, whatever their priority. -/
  scenarioStateFirst : Bool := true
  insertionOrder : InsertionOrder := .newestFirst
  deriving DecidableEq

/-- How sessions are told apart, and how many seconds they live without being seen. -/
structure SessionSettings where
  sessionAware : Bool := true
  headerName : String := "X-WireMock-Session-Id"
  cookieName : String := "WireMockSessionId"
  /-- Without a lifetime, sessions are kept. -/
  idleSeconds : Option UInt64 := none
  /-- The lifetime of a minted session that no client has presented. -/
  mintedSeconds : UInt64 := 300
  deriving DecidableEq

namespace SessionSettings

/-- How sessions are read off requests. -/
def resolver (s : SessionSettings) : Resolver := ⟨s.headerName, s.cookieName, s.sessionAware⟩

/-- The lifetime of a session. -/
def idleLimit (s : SessionSettings) : Option Duration := s.idleSeconds.map fun n => .ofSeconds n.toNat

/-- The lifetime of a minted session that no client has presented. -/
def mintedLimit (s : SessionSettings) : Duration := .ofSeconds s.mintedSeconds.toNat

end SessionSettings

/-- The settings of an engine. -/
structure EngineConfig where
  sessions : SessionSettings := {}
  selection : SelectionPolicy := {}
  deriving DecidableEq

namespace EngineConfig

/-- The settings with sessions told apart or not. -/
def withSessionAware (c : EngineConfig) (on : Bool) : EngineConfig :=
  { c with sessions := { c.sessions with sessionAware := on } }

/-- The settings with other names for the session header and cookie. -/
def withSignalNames (c : EngineConfig) (header cookie : String) : EngineConfig :=
  { c with sessions := { c.sessions with headerName := header, cookieName := cookie } }

/-- The settings with a lifetime for sessions, cut down to whole seconds. -/
def withIdleLimit (c : EngineConfig) (d : Duration) : EngineConfig :=
  { c with sessions := { c.sessions with idleSeconds := some d.wholeSeconds.toUInt64 } }

/-- The settings with a lifetime for minted sessions, cut down to whole seconds. -/
def withMintedLimit (c : EngineConfig) (d : Duration) : EngineConfig :=
  { c with sessions := { c.sessions with mintedSeconds := d.wholeSeconds.toUInt64 } }

/-- The settings with another ranking of candidates. -/
def withSelection (c : EngineConfig) (p : SelectionPolicy) : EngineConfig := { c with selection := p }

/-- The written form; every setting is present. -/
def toJson (c : EngineConfig) : Json :=
  .fields [
    ("selection", .fields [
      ("insertion_order", .text c.selection.insertionOrder.name),
      ("scenario_state_first", .bool c.selection.scenarioStateFirst)]),
    ("sessions", .fields [
      ("cookie_name", .text c.sessions.cookieName),
      ("header_name", .text c.sessions.headerName),
      ("idle_ttl_secs", match c.sessions.idleSeconds with
        | some n => .nat n.toNat
        | none => .null),
      ("minted_ttl_secs", .nat c.sessions.mintedSeconds.toNat),
      ("session_aware", .bool c.sessions.sessionAware)])]

end EngineConfig

variable {δ : Type} [Document δ]

/-- The ranking that a document writes. -/
def SelectionPolicy.decode? (d : δ) : Option SelectionPolicy := do
  let r ← Record.of? ["scenario_state_first", "insertion_order"] d
  let scenarioStateFirst ← r.field? "scenario_state_first" Document.bool? true
  let insertionOrder ← r.field? "insertion_order" InsertionOrder.decode? .newestFirst
  return { scenarioStateFirst, insertionOrder }

/-- The session settings that a document writes. -/
def SessionSettings.decode? (d : δ) : Option SessionSettings := do
  let r ← Record.of? ["session_aware", "header_name", "cookie_name", "idle_ttl_secs", "minted_ttl_secs"] d
  let sessionAware ← r.field? "session_aware" Document.bool? true
  let headerName ← r.field? "header_name" Document.text? ({} : SessionSettings).headerName
  let cookieName ← r.field? "cookie_name" Document.text? ({} : SessionSettings).cookieName
  let idle ← r.field? "idle_ttl_secs" (Document.optional? (Document.natBelow? UInt64.size)) none
  let minted ← r.field? "minted_ttl_secs" (Document.natBelow? UInt64.size) 300
  let idleSeconds := idle.map Nat.toUInt64
  return { sessionAware, headerName, cookieName, idleSeconds, mintedSeconds := minted.toUInt64 }

/-- The settings that a document writes. -/
def EngineConfig.decode? (d : δ) : Option EngineConfig := do
  let r ← Record.of? ["sessions", "selection"] d
  let sessions ← r.field? "sessions" SessionSettings.decode? {}
  let selection ← r.field? "selection" SelectionPolicy.decode? {}
  return { sessions, selection }

end ScenarioStubs
