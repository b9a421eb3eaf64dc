import ScenarioStubs.ServerConfig

/-!
# The command line

Options come before the settings of a file, which come before the defaults. An option that takes a value is followed
by it; of several values for one option the last counts.
-/

namespace ScenarioStubs

/-- What a command line asks for. -/
structure CommandLine where
  /-- The file to read settings from. -/
  file : Option String := none
  bind : Option SocketAddress := none
  port : Option UInt16 := none
  sharedSession : Bool := false
  idleSeconds : Option UInt64 := none
  mintedSeconds : Option UInt64 := none
  oldestFirst : Bool := false
  deriving DecidableEq

/-- Why a command line is refused. -/
inductive CommandLineError
  | unknownOption (name : String)
  | missingValue (name : String)
  | invalidValue (name value : String)
  deriving DecidableEq

/-- The wording of an error. -/
def CommandLineError.message : CommandLineError → String
  | .unknownOption name => "unknown option: " ++ name
  | .missingValue name => "option without a value: " ++ name
  | .invalidValue name value => "invalid value for " ++ name ++ ": " ++ value

namespace CommandLine

/-- A natural number below a limit, in decimal. -/
def number? (limit : Nat) (value : String) : Option Nat :=
  (Text.decimalNumber? value.toList).bind fun n => if n < limit then some n else none

/-- The command line with an option that takes no value; `none` if there is no such option. -/
def withFlag? (c : CommandLine) : String → Option CommandLine
  | "--no-session-aware" => some { c with sharedSession := true }
  | "--oldest-first" => some { c with oldestFirst := true }
  | _ => none

/-- The command line with an option that takes a value. -/
def withOption (c : CommandLine) (name value : String) : Except CommandLineError CommandLine :=
  let found {α : Type} (parsed : Option α) (set : α → CommandLine) : Except CommandLineError CommandLine :=
    match parsed with
    | some a => .ok (set a)
    | none => .error (.invalidValue name value)
  match name with
  | "--config" | "-c" => .ok { c with file := some value }
  | "--bind" => found (SocketAddress.parse? value) fun bind => { c with bind := some bind }
  | "--port" | "-p" => found (number? UInt16.size value) fun n => { c with port := some n.toUInt16 }
  | "--session-ttl" => found (number? UInt64.size value) fun n => { c with idleSeconds := some n.toUInt64 }
  | "--minted-ttl" => found (number? UInt64.size value) fun n => { c with mintedSeconds := some n.toUInt64 }
  | _ => .error (.unknownOption name)

/-- Whether an option takes a value. -/
def takesValue (name : String) : Bool :=
  ["--config", "-c", "--bind", "--port", "-p", "--session-ttl", "--minted-ttl"].contains name

/-- The command line with the options of a list. -/
def withAll (c : CommandLine) : List String → Except CommandLineError CommandLine
  | [] => .ok c
  | name :: rest =>
    match c.withFlag? name, rest with
    | some c, rest => c.withAll rest
    | none, value :: rest =>
      match c.withOption name value with
      | .ok c => c.withAll rest
      | .error e => .error e
    | none, [] => .error (if takesValue name then .missingValue name else .unknownOption name)

/-- What a list of arguments asks for. -/
def parse (args : List String) : Except CommandLineError CommandLine := withAll {} args

/-- The settings with those that the command line gives in their place. -/
def override (c : CommandLine) (base : ServerConfig) : ServerConfig :=
  let s := { base with bind := c.bind.getD base.bind }
  let s := { s with bind := { s.bind with port := c.port.getD s.bind.port } }
  let e := if c.sharedSession then s.engine.withSessionAware false else s.engine
  let sessions :=
    { e.sessions with
      idleSeconds := c.idleSeconds <|> e.sessions.idleSeconds
      mintedSeconds := c.mintedSeconds.getD e.sessions.mintedSeconds }
  let selection := if c.oldestFirst then { e.selection with insertionOrder := .oldestFirst } else e.selection
  { s with engine := { sessions, selection } }

end CommandLine

end ScenarioStubs
