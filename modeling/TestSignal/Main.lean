import Std.Time.DateTime.Timestamp
import TestSignal.CommandLine.Run

namespace TestSignal

namespace Program

/-!
# The program

The outer layer of the command line: it gathers what a run looks at, carries the
command line out, and prints.  Everything that is decided is decided before.

This front end starts no other program and opens no port.  A compile therefore
finds no devices and falls back to the default one, and serving only says where
the API would listen.
-/

/-- The environment variables that settings are read from. -/
def variableNames : List String :=
  ["FFMPEG_PATH", "SIGNALFORGE_PICTURES", "SIGNALFORGE_UPLOADS", "SIGNALFORGE_FONT",
    "SIGNALFORGE_DEVICE", "SIGNALFORGE_SNTP"]

/-- The present time in milliseconds. -/
def nowMs : IO Int := do
  let now ← Std.Time.Timestamp.now
  return now.toMillisecondsSinceUnixEpoch.val

/-- Whether a file can be opened. -/
def canOpen (path : String) : IO Bool :=
  try
    let _ ← IO.FS.Handle.mk (Text.toPlain path) .read
    return true
  catch _ => return false

/-- The bytes of a file, or why they cannot be read. -/
def bytesOf (path : String) : IO (Except Fault (List Nat)) :=
  try
    let bytes ← IO.FS.readBinFile path
    return .ok (bytes.toList.map UInt8.toNat)
  catch
    | .noFileOrDirectory _ _ _ => return .error .missingFile
    | .inappropriateType _ _ _ => return .error .isDirectory
    | other => return .error (.reported .system (toString other))

/-- Whether a program is installed: at its own path, or in a directory of the search path. -/
def isInstalled (searchPath name : String) : IO Bool := do
  if name.toList.any (· == '/') then canOpen name
  else (searchPath.splitOn ":").anyM fun directory => canOpen (directory ++ "/" ++ name)

/-- The file that a command line names as its configuration. -/
def configPath? (texts : List String) : Option String :=
  match CommandLine.read texts with
  | .ok (_, .compile arguments) => arguments.config
  | _ => none

/-- The files that a compile may ask for. -/
def candidateFiles (home : Path) (fontPath : String) : List String :=
  (home.below Settings.bundledEnginePath).toText ::
    (Fonts.standard fontPath).families.flatMap fun family => family.2.candidates

def levelName : LogLevel → String
  | .debug => "DEBUG"
  | .info => "INFO"
  | .warning => "WARNING"
  | .error => "ERROR"

/-- Whether a line of the log is shown. -/
def isShown (verbose : Bool) : LogLevel → Bool
  | .warning | .error => true
  | .debug | .info => verbose

def usage : String :=
  "usage: signalforge [-h] [--verbose] \x7bcompile,serve\x7d ...\n"

/-- Carries the command line out at a station with the settings of the environment. -/
def carryOut (environment : List (String × String)) (home workingDir : Path)
    (texts : List String) : HostRun CommandLine.Outcome := do
  let settings ← Settings.ofEnvironment environment home workingDir
  CommandLine.run (Station.ofSettings settings (← HostRun.nowMs)) texts

/-- The host as a run finds it. -/
def gatherHost (environment : List (String × String)) (home : Path) (texts : List String) :
    IO Host := do
  let value (name standard : String) : String :=
    (Settings.environmentText? environment name).getD standard
  let fontPath := value "SIGNALFORGE_FONT" Settings.standardFontPath
  let present ← (candidateFiles home fontPath).filterM canOpen
  let searchPath := (← IO.getEnv "PATH").getD ""
  let enginePath := value "FFMPEG_PATH" "ffmpeg"
  let engineInstalled ← isInstalled searchPath enginePath
  let contents ←
    match configPath? texts with
    | some path => bytesOf (Text.toPlain path)
    | none => pure (.error .missingFile)
  let seconds := ((Number.int (← nowMs)).div 1000).toOption.getD 0
  return {
    now := seconds
    programs := []
    furtherPrograms := .failed (.reported .system "no program is started")
    exists? := fun path => .ok (present.contains path)
    hasProgram := fun name => name != enginePath || engineInstalled
    contents := fun _ => contents }

/-- Prints how a command line ended. -/
def report (outcome : CommandLine.Outcome) (log : List LogLine) : IO Unit := do
  let verbose := outcome.verbose.getD false
  for line in log do
    if isShown verbose line.level then
      IO.eprintln (levelName line.level ++ ": " ++ Text.toPlain line.text)
  match outcome.ending with
  | .help => IO.print usage
  | .misuse => IO.eprint usage
  | ending =>
      IO.eprint (Text.toPlain ending.errorOutput)
      IO.print (Text.toPlain ending.output)

/-- Runs the program; the result is its exit code. -/
def run (texts : List String) : IO UInt32 := do
  let environment ← variableNames.filterMapM fun name => do
    return (← IO.getEnv name).map fun value => (name, Text.ofPlain value)
  let home := Path.ofText ((← IO.getEnv "HOME").getD "/")
  let workingDir := Path.ofText (← IO.currentDir).toString
  let texts := texts.map Text.ofPlain
  let host ← gatherHost environment home texts
  match carryOut environment home workingDir texts host with
  | (.ok outcome, after) =>
      report outcome after.log
      return outcome.ending.exitCode.toUInt32
  | (.error fault, _) =>
      IO.eprintln fault.message
      return 1

end Program

end TestSignal

/-- The command line of the program. -/
def main (texts : List String) : IO UInt32 := TestSignal.Program.run texts
