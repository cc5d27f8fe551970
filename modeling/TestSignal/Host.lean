import TestSignal.Number.Basic

namespace TestSignal

/-!
# The outside

A compile looks outside for three things: whether a font file exists, what
another program answers, and what time it is.  A command line names a file
besides, and asks whether the engine is installed.  `Host` is the outside as the
library sees it: the present time, what exists, and the answers that the next
started programs will give, in order.  It also keeps what the outside could
observe, the programs started and the lines logged.

An operation that looks outside is a `HostRun`.  It keeps what it has done to
the host also when it ends in a fault.
-/

/-! ## Programs -/

/-- How a started program ends: with an exit code and its output, or with a fault. -/
inductive ProgramEnd where
  | exited (code : Int) (output : String)
  /-- The time allowed is over. -/
  | timedOut
  | failed (fault : Fault)

/-- A program start: the command and the seconds allowed. -/
structure ProgramStart where
  command : List String
  seconds : Nat
  deriving DecidableEq

/-! ## The log -/

inductive LogLevel where
  | debug | info | warning | error
  deriving DecidableEq

/-- The part of the program that logs a line. -/
inductive LogSource where
  | devices | fonts | sync
  deriving DecidableEq

structure LogLine where
  level : LogLevel
  source : LogSource
  text : String
  deriving DecidableEq

/-! ## The host -/

structure Host where
  /-- The present time in seconds. -/
  now : Number
  /-- The times that the clock shows when it is looked at again, in order; then it stands. -/
  laterTimes : List Number := []
  /-- How the next started programs end, in order. -/
  programs : List ProgramEnd
  /-- How a program ends that is started after those. -/
  furtherPrograms : ProgramEnd
  /-- Whether a file exists, or why that cannot be told. -/
  exists? : String → Except Fault Bool
  /-- Whether a program can be started by this name. -/
  hasProgram : String → Bool := fun _ => true
  /-- The bytes of a file that a command line names. -/
  contents : String → Except Fault (List Nat) := fun _ => .error .missingFile
  started : List ProgramStart := []
  log : List LogLine := []

/-- An operation on the host with a result or a fault. -/
abbrev HostRun := ExceptT Fault (StateM Host)

namespace HostRun

/-- A result that does not depend on the host. -/
def ofExcept (result : Except Fault α) : HostRun α := fun host => (result, host)

/-- Runs an operation and hands its fault on as a value, keeping what it did. -/
def attempt (run : HostRun α) : HostRun (Except Fault α) := fun host =>
  let (result, after) := run host
  (.ok result, after)

/-- Records a line in the log. -/
def logLine (level : LogLevel) (source : LogSource) (text : String) : HostRun Unit :=
  fun host => (.ok (), { host with log := host.log ++ [{ level, source, text }] })

/-- The present time in seconds. Time passes until the clock is looked at again. -/
def now : HostRun Number := fun host =>
  match host.laterTimes with
  | [] => (.ok host.now, host)
  | later :: rest => (.ok host.now, { host with now := later, laterTimes := rest })

/-- The present time in milliseconds. -/
def nowMs : HostRun Number := do
  let seconds ← now
  ofExcept (seconds.mul 1000)

/-- Whether a file exists. -/
def fileExists (path : String) : HostRun Bool := fun host => (host.exists? path, host)

/-- The bytes of a file. -/
def readFile (path : String) : HostRun (List Nat) := fun host => (host.contents path, host)

/-- Faults unless a program can be started by this name. -/
def requireProgram (name : String) : HostRun Unit := fun host =>
  (if host.hasProgram name then .ok () else .error (.executableMissing name), host)

/-- Starts a program and waits for its end, at most the seconds allowed. -/
def start (command : List String) (seconds : Nat) : HostRun (Int × String) := fun host =>
  let (ending, rest) :=
    match host.programs with
    | [] => (host.furtherPrograms, [])
    | ending :: rest => (ending, rest)
  let after :=
    { host with
      programs := rest
      started := host.started ++ [{ command := command, seconds := seconds }] }
  match ending with
  | .exited code output => (.ok (code, output), after)
  | .timedOut => (.error (.timedOut command seconds), after)
  | .failed fault => (.error fault, after)

end HostRun

end TestSignal
