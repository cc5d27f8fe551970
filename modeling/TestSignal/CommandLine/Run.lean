import TestSignal.Api
import TestSignal.CommandLine.Arguments
import TestSignal.Config.File
import TestSignal.Json.Writer

namespace TestSignal

namespace CommandLine

/-!
# Carrying out a command line

A compile prints the engine's command line, or everything about it as JSON.  A
configuration that cannot be read ends the program with a message; a fault of the
compile itself is no such ending.  Serving prints where the API listens, and
warns when the engine is not installed, since previews work without it.
-/

/-- How a command line ends. -/
inductive Ending where
  /-- Help is shown. -/
  | help
  /-- The command line is refused. -/
  | misuse
  /-- The configuration cannot be read. -/
  | unreadable (fault : Fault)
  | compiled (output : String)
  /-- The API is served, after a warning if there is one. -/
  | served (arguments : ServeArguments) (warning : Option String)

structure Outcome where
  /-- Whether debug messages are logged; unknown if the command line is not read to its end. -/
  verbose : Option Bool
  ending : Ending

namespace Ending

def exitCode : Ending → Nat
  | help => 0
  | misuse => 2
  | unreadable _ => 1
  | compiled _ => 0
  | served _ _ => 0

/-- Where the API listens; a part that is not given shows as an empty list. -/
def address (arguments : ServeArguments) : String :=
  "http://" ++ arguments.host.getD "[]" ++ ":" ++ (arguments.port.map toString).getD "[]"

/-- What is printed; the texts of help and usage are left to the program. -/
def output : Ending → String
  | compiled output => output
  | served arguments _ => "SignalForge control API: " ++ address arguments ++ "\n"
  | _ => ""

/-- What is printed as an error. -/
def errorOutput : Ending → String
  | unreadable fault => "Error: cannot read config: " ++ fault.message ++ "\n"
  | served _ warning => warning.getD ""
  | _ => ""

end Ending

/-! ## Compiling -/

/-- The argument of an option; an empty one counts as none. -/
def given (argument : Option String) : Option String :=
  argument.filter fun text => !text.isEmpty

/-- Puts the argument of an option under a key, if one is given. -/
def override (key : String) (argument : Option String) (entries : List (String × Value)) :
    List (String × Value) :=
  match given argument with
  | some text => Value.insertEntry key (.string text) entries
  | none => entries

/-- The entries of a configuration with the overrides of the command line. -/
def overriddenEntries (config : Config) (arguments : CompileArguments) :
    List (String × Value) :=
  override "decklinkDevice" arguments.device
    (override "videoFormat" arguments.format (config.toValue.entries?.getD []))

/-- A fault that means that a configuration cannot be read. -/
def isUnreadable (fault : Fault) : Bool := fault.family = .system || fault.family = .invalid

/-- The configuration of a compile, or why it cannot be read. -/
def readConfig (arguments : CompileArguments) : HostRun (Except Fault Config) :=
  match arguments.config with
  | none => pure (.ok Config.standard)
  | some path => do
      match ← HostRun.attempt (Config.ofFile path) with
      | .ok config => return .ok config
      | .error fault => if isUnreadable fault then return .error fault else throw fault

/-- What a compile prints. -/
def compiledOutput (command : Command) (config : Config) (json : Bool) : String :=
  if json then
    Json.toText .indented (.object (Api.commandEntries command config)) ++ "\n"
  else command.line ++ "\n"

def compile (station : Station) (arguments : CompileArguments) : HostRun Ending := do
  match ← readConfig arguments with
  | .error fault => return .unreadable fault
  | .ok config =>
      let config ←
        HostRun.ofExcept (Config.ofValue (.object (overriddenEntries config arguments)))
      let (command, _) ← station.compile config
      return .compiled (compiledOutput command config arguments.json)

/-! ## Serving -/

/-- The warning that the engine is not installed. -/
def engineWarning (enginePath : String) : HostRun (Option String) := do
  match ← HostRun.attempt (HostRun.requireProgram enginePath) with
  | .ok _ => return none
  | .error fault =>
      return some ("Warning: " ++ fault.message ++
        "; previews work but the engine cannot start.\n")

def serve (station : Station) (arguments : ServeArguments) : HostRun Ending := do
  return .served arguments (← engineWarning station.settings.ffmpegPath)

/-! ## All commands -/

/-- Carries out a command line at a station. -/
def run (station : Station) (texts : List String) : HostRun Outcome := do
  match read texts with
  | .error .help => return { verbose := none, ending := .help }
  | .error .misuse => return { verbose := none, ending := .misuse }
  | .ok (verbose, request) =>
      let ending ←
        match request with
        | .nothing => pure .help
        | .compile arguments => compile station arguments
        | .serve arguments => serve station arguments
      return { verbose := some verbose, ending }

end CommandLine

end TestSignal
