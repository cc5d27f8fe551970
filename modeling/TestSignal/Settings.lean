import TestSignal.Host
import TestSignal.Path

namespace TestSignal

/-!
# Settings of an installation

The settings say where the programs, pictures and uploads of an installation
are.  They come from the environment: a variable that is missing or empty leaves
the default, any other text is taken as it is.
-/

/-- The font file of clocks and technical overlays, unless the environment names another. -/
def Settings.standardFontPath : String := "/System/Library/Fonts/SFNSMono.ttf"

structure Settings where
  ffmpegPath : String := "ffmpeg"
  picturesDir : Path
  uploadsDir : Path
  fontPath : String := Settings.standardFontPath
  defaultDevice : String := "UltraStudio Mini Monitor"
  sntpPath : String := "/usr/bin/sntp"
  sntpServers : List String := ["time.cloudflare.com", "time.google.com", "time.nist.gov"]
  /-- Seconds between two clock synchronisations. -/
  syncInterval : Number := 900

namespace Settings

/-- The logo shown when no uploaded one is named. -/
def logoPath (settings : Settings) : Path := settings.picturesDir.below "PNG-actua/actua.png"

def backgroundsDir (settings : Settings) : Path := settings.uploadsDir.below "backgrounds"

/-- The value of an environment variable, unless it is missing or empty. -/
def environmentText? (environment : List (String × String)) (name : String) : Option String :=
  (environment.lookup name).filter fun value => !value.isEmpty

/-- Where an engine that comes with the program stands below the home directory. -/
def bundledEnginePath : String := "ffmpeg-4.4.4/build/bin/ffmpeg"

/-- The engine that comes with the program if it exists, and any other one otherwise. -/
def bundledEngine (home : Path) : HostRun String := do
  let bundled := (home.below bundledEnginePath).toText
  return if ← HostRun.fileExists bundled then bundled else "ffmpeg"

def ofEnvironment (environment : List (String × String)) (home workingDir : Path) :
    HostRun Settings := do
  let engine ←
    match environmentText? environment "FFMPEG_PATH" with
    | some path => pure path
    | none => bundledEngine home
  let standard : Settings :=
    { ffmpegPath := engine
      picturesDir := home.below "Pictures"
      uploadsDir := workingDir.below "uploads" }
  let value (name : String) : Option String := environmentText? environment name
  return { standard with
    picturesDir := ((value "SIGNALFORGE_PICTURES").map Path.ofText).getD standard.picturesDir
    uploadsDir := ((value "SIGNALFORGE_UPLOADS").map Path.ofText).getD standard.uploadsDir
    fontPath := (value "SIGNALFORGE_FONT").getD standard.fontPath
    defaultDevice := (value "SIGNALFORGE_DEVICE").getD standard.defaultDevice
    sntpPath := (value "SIGNALFORGE_SNTP").getD standard.sntpPath }

end Settings

end TestSignal
