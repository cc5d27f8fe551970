import TestSignal.Command
import TestSignal.Sync

namespace TestSignal

/-!
# The station

A station is an installation at work: its settings, and what its compiles share,
the timebase, the discovered devices and the fonts.
-/

structure Station where
  settings : Settings
  timebase : Clock.Timebase
  devices : Device.Cache
  fonts : Fonts

namespace Station

/-- A station with nothing but its settings: the clock starts at the present time. -/
def ofSettings (settings : Settings) (nowMs : Number) : Station where
  settings := settings
  timebase := { epochMs := nowMs }
  devices := { enginePath := settings.ffmpegPath, defaultName := settings.defaultDevice }
  fonts := Fonts.standard settings.fontPath

/-- Compiles a configuration of any form. -/
def compileRaw (station : Station) (config : RawConfig) : HostRun (Command × Station) := do
  let (command, devices) ←
    Command.compile config station.settings station.timebase.reading station.fonts
      station.devices
  return (command, { station with devices })

/-- Compiles a checked configuration. -/
def compile (station : Station) (config : Config) : HostRun (Command × Station) :=
  station.compileRaw config.toRaw

/-- Checks loosely typed data and compiles it. -/
def compileValue (station : Station) (data : Value) : HostRun (Command × Station) := do
  let config ← HostRun.ofExcept (Config.ofValue data)
  station.compile config

end Station

end TestSignal
