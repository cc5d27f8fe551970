import TestSignal.CommandLine.Options
import TestSignal.Number.Reading

namespace TestSignal

namespace CommandLine

/-!
# The commands and their arguments

The program has two commands.  `compile` prints the engine's command line for a
configuration, and `serve` starts the control API.  Options before the command
belong to the program, those after it to the command.  An option given twice
counts as it is given last.
-/

/-! ## Options of the program -/

inductive ProgramOption where
  | help
  | verbose
  deriving DecidableEq

def programOptions : Options ProgramOption where
  spellings :=
    [("-h", .help), ("--help", .help), ("--verbose", .verbose), ("-v", .verbose)]
  takesArgument := fun _ => false

def applyProgramOption (_ : Bool) (option : ProgramOption) (_ : Option String) :
    Except Refusal Bool :=
  match option with
  | .help => .error .help
  | .verbose => .ok true

/-! ## Compiling -/

structure CompileArguments where
  /-- The configuration file. -/
  config : Option String := none
  /-- The output format that replaces the configuration's. -/
  format : Option String := none
  /-- The output device that replaces the configuration's. -/
  device : Option String := none
  /-- Whether everything is printed as JSON. -/
  json : Bool := false
  deriving DecidableEq

inductive CompileOption where
  | help
  | config
  | format
  | device
  | json
  deriving DecidableEq

def compileOptions : Options CompileOption where
  spellings :=
    [ ("-h", .help), ("--help", .help), ("--config", .config), ("-c", .config),
      ("--format", .format), ("--device", .device), ("--json", .json) ]
  takesArgument
    | .config | .format | .device => true
    | .help | .json => false

def applyCompileOption (arguments : CompileArguments) (option : CompileOption)
    (argument : Option String) : Except Refusal CompileArguments :=
  match option with
  | .help => .error .help
  | .config => .ok { arguments with config := argument }
  | .format => .ok { arguments with format := argument }
  | .device => .ok { arguments with device := argument }
  | .json => .ok { arguments with json := true }

/-! ## Serving -/

structure ServeArguments where
  /-- Where to listen; nothing if two dashes are given for it. -/
  port : Option Int := some 8321
  host : Option String := some "127.0.0.1"
  /-- Whether the clock is synchronised while the API is served. -/
  sync : Bool := true
  deriving DecidableEq

inductive ServeOption where
  | help
  | port
  | host
  | noSync
  deriving DecidableEq

def serveOptions : Options ServeOption where
  spellings :=
    [ ("-h", .help), ("--help", .help), ("--port", .port), ("--host", .host),
      ("--no-sync", .noSync) ]
  takesArgument
    | .port | .host => true
    | .help | .noSync => false

def applyServeOption (arguments : ServeArguments) (option : ServeOption)
    (argument : Option String) : Except Refusal ServeArguments :=
  match option with
  | .help => .error .help
  | .port =>
      match argument with
      | none => .ok { arguments with port := none }
      | some text =>
          match Reading.integer? text with
          | some port => .ok { arguments with port := some port }
          | none => .error .misuse
  | .host => .ok { arguments with host := argument }
  | .noSync => .ok { arguments with sync := false }

/-! ## The whole command line -/

inductive Request where
  | compile (arguments : CompileArguments)
  | serve (arguments : ServeArguments)
  /-- No command is named. -/
  | nothing
  deriving DecidableEq

/-- Reads the words after a command; the flag tells whether a stray one is among them. -/
def readWords {α β : Type} (options : Options α)
    (apply : β → α → Option String → Except Refusal β) (start : β) (texts : List String) :
    Except Refusal (β × Bool) :=
  let words := options.words texts
  if Options.isAmbiguous words then .error .misuse
  else applyItems apply (options.items words) (start, false)

/-- Reads a command by its name and the words after it. -/
def readCommand (name : String) (texts : List String) : Except Refusal (Request × Bool) := do
  if name = "compile" then
    let (arguments, strays) ← readWords compileOptions applyCompileOption {} texts
    return (.compile arguments, strays)
  else if name = "serve" then
    let (arguments, strays) ← readWords serveOptions applyServeOption {} texts
    return (.serve arguments, strays)
  else throw .misuse

def isOption {α : Type} (word : Word α) : Bool :=
  match word.kind with
  | .plain | .separator => false
  | _ => true

/--
Reads a command line: whether it is verbose, and what it requests.  The first
plain word names the command.  A stray word before the command or after it is a
misuse, but only when everything has been read.
-/
def read (texts : List String) : Except Refusal (Bool × Request) := do
  let words := programOptions.words texts
  if Options.isAmbiguous words then throw .misuse
  else
    let (verbose, straysBefore) ←
      applyItems applyProgramOption (programOptions.items (words.takeWhile isOption))
        (false, false)
    let (request, straysAfter) ←
      match words.dropWhile isOption with
      | [] => pure (Request.nothing, false)
      | { text, kind := .plain } :: rest => readCommand text (rest.map Word.text)
      | _ => throw Refusal.misuse
    if straysBefore || straysAfter then throw .misuse else return (verbose, request)

end CommandLine

end TestSignal
