import ScenarioStubs.Engine.Config
import ScenarioStubs.SocketAddress
import ScenarioStubs.Text.Utf8
import ScenarioStubs.Toml.Reader

/-!
# Server settings

Where the server listens, how often it drops expired sessions, and the settings of its engine. They are read from a
TOML document in which every key is optional, and then checked.
-/

namespace ScenarioStubs

/-- The settings of a server. -/
structure ServerConfig where
  bind : SocketAddress := ⟨.v4 ⟨127, 0, 0, 1⟩, 8080⟩
  sweepSeconds : UInt64 := 60
  engine : EngineConfig := {}
  deriving DecidableEq

/-- Why settings are refused. -/
inductive ConfigError
  /-- The file cannot be read as text. -/
  | unreadable
  /-- The text does not write settings. -/
  | malformed
  | zeroSweepInterval
  | emptySignalName
  deriving DecidableEq

/-- The wording of an error of the settings. -/
def ConfigError.message : ConfigError → String
  | .unreadable => "failed to read config"
  | .malformed => "failed to parse config"
  | .zeroSweepInterval => "invalid config: sweep_interval_secs must be positive"
  | .emptySignalName => "invalid config: session header and cookie names must not be empty"

namespace ServerConfig

/-- The settings that a document writes. -/
def decode? {δ : Type} [Document δ] (d : δ) : Option ServerConfig := do
  let r ← Record.of? ["bind", "sweep_interval_secs", "engine"] d
  let bind ← r.field? "bind" (fun d => (Document.text? d).bind SocketAddress.parse?) ({} : ServerConfig).bind
  let sweep ← r.field? "sweep_interval_secs" (Document.natBelow? UInt64.size) 60
  let engine ← r.field? "engine" EngineConfig.decode? {}
  return { bind, sweepSeconds := sweep.toUInt64, engine }

/-- Settings that can be used: the sweeper does not run without pause, and the session header and cookie have names. -/
def validate (c : ServerConfig) : Except ConfigError Unit :=
  if c.sweepSeconds = 0 then .error .zeroSweepInterval
  else if c.engine.sessions.headerName = "" ∨ c.engine.sessions.cookieName = "" then .error .emptySignalName
  else .ok ()

/-- The usable settings that a TOML text writes. -/
def ofToml (text : String) : Except ConfigError ServerConfig := do
  let some c := (Toml.parse? text).bind decode? | .error .malformed
  c.validate
  return c

/-- The usable settings in the bytes of a file; `none` if there is no such file. -/
def ofFile (content : Option Bytes) : Except ConfigError ServerConfig :=
  match content.bind Utf8.decode? with
  | some text => ofToml text
  | none => .error .unreadable

/-- The settings with another port on the same host. -/
def withPort (c : ServerConfig) (port : UInt16) : ServerConfig := { c with bind := { c.bind with port } }

/-- The time between two sweeps. -/
def sweepInterval (c : ServerConfig) : Duration := .ofSeconds c.sweepSeconds.toNat

/-- The written form; every setting is present. -/
def toJson (c : ServerConfig) : Json :=
  .fields [
    ("bind", .text c.bind.render),
    ("engine", c.engine.toJson),
    ("sweep_interval_secs", .nat c.sweepSeconds.toNat)]

end ServerConfig

end ScenarioStubs
