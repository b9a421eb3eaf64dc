import ScenarioStubs.CommandLine
import ScenarioStubs.Http.Line
import ScenarioStubs.Http.Server

/-!
# The program

Reads settings, then answers messages from standard input on standard output, one on each line, until the input ends.
-/

namespace ScenarioStubs.Main

/-- The exit code of a program that was used wrongly. -/
def usageError : UInt32 := 2

/-- A clock reading. -/
def now : IO Instant := return ⟨← IO.monoNanosNow⟩

/-- A random UUID. -/
def freshUuid : IO Uuid := do
  let bytes ← IO.getRandomBytes 16
  return .random (BitVec.ofNat 128 (bytes.toList.foldl (fun n b => n * 256 + b.toNat) 0))

/-- Identifiers for one message. -/
def fresh : IO Http.Fresh := do
  let session := (SessionId.ofToken? (← freshUuid).render).getD .global
  return ⟨session, ← freshUuid⟩

/-- Answers the lines that remain. Expired sessions are dropped when the time for it has come. -/
partial def serve (interval : Duration) (input output : IO.FS.Stream) (e : Engine) (lastSweep : Instant) : IO Unit := do
  let line ← input.getLine
  if line.isEmpty then return
  let time ← now
  let isDue : Bool := interval.nanos ≤ (time.since lastSweep).nanos
  let e := if isDue then (e.evictExpired time).2 else e
  let lastSweep := if isDue then time else lastSweep
  match Http.Message.ofLine? line with
  | none =>
    output.putStrLn (Http.Reply.text 400 "not a message").toLine
    output.flush
    serve interval input output e lastSweep
  | some m =>
    let (reply, e) := Http.answer e time (← fresh) m
    output.putStrLn reply.toLine
    output.flush
    serve interval input output e lastSweep

/-- The settings that a command line asks for. -/
def settings (c : CommandLine) : IO (Except ConfigError ServerConfig) := do
  let base ← match c.file with
    | none => pure (.ok {})
    | some file =>
      try
        let bytes ← IO.FS.readBinFile file
        pure (ServerConfig.ofFile (some bytes.toList))
      catch _ => pure (ServerConfig.ofFile none)
  return do
    let s := c.override (← base)
    s.validate
    return s

end ScenarioStubs.Main

open ScenarioStubs in
/-- Runs the server with the settings that the arguments ask for. -/
def main (args : List String) : IO UInt32 := do
  match CommandLine.parse args with
  | .error e =>
    IO.eprintln e.message
    return Main.usageError
  | .ok c =>
    match ← Main.settings c with
    | .error e =>
      IO.eprintln e.message
      return 1
    | .ok s =>
      Main.serve s.sweepInterval (← IO.getStdin) (← IO.getStdout) (.new s.engine) (← Main.now)
      return 0
