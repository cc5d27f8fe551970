import TestSignal.Clock.Timebase
import TestSignal.Settings
import TestSignal.Sntp

namespace TestSignal

namespace Sync

/-!
# Synchronising the timebase

A synchronisation asks the time servers in order and applies the first answer.
A server that cannot be asked, or whose answer is unusable, is passed over; when
none is left, the timebase goes back to the system clock without an offset.  The
epoch is frozen in either case, so that a running clock stays continuous.

A synchronisation changes the timebase and looks outside, and what it has done
to either stays done when it ends in a fault.
-/

abbrev Run := ExceptT Fault (StateM (Clock.Timebase × Host))

namespace Run

/-- An operation on the host alone. -/
def onHost (run : HostRun α) : Run α := fun (timebase, host) =>
  let (result, after) := run host
  (result, (timebase, after))

/-- A change of the timebase alone. -/
def onTimebase (step : Clock.Timebase.Step) : Run Unit := fun (timebase, host) =>
  let (result, after) := step timebase
  (result, (after, host))

end Run

/-- A fault that means that one server cannot be asked now. -/
def isTolerated (fault : Fault) : Bool :=
  fault.family = .system || fault.family = .process

/-- The update that a measurement makes. -/
def measuredUpdate (measurement : Sntp.Measurement) : Clock.TimebaseUpdate where
  offsetMs := .number measurement.offsetMs
  source := .string measurement.source
  uncertaintyMs := some (Clock.Timebase.optionalNumber measurement.dispersionMs)
  timestampMs := some (.number measurement.timestampMs)
  freezeEpoch := true

/-- The update that goes back to the system clock. -/
def systemUpdate (nowMs : Number) : Clock.TimebaseUpdate where
  offsetMs := .number (.float Binary64.zero)
  source := .string Clock.systemClock
  uncertaintyMs := some .null
  timestampMs := some (.number nowMs)
  freezeEpoch := true

/-- A number with its sign and one place. -/
def signedText (number : Number) : Except Fault String := do
  let value ← number.toBinary64
  return (if value.isNegative then "" else "+") ++ value.fixedText 1

/-- Applies a measurement. The epoch is frozen, so no present time is needed for it. -/
def applyMeasurement (server : String) (measurement : Sntp.Measurement) : Run Unit := do
  Run.onTimebase
    (Clock.Timebase.update (measuredUpdate measurement) measurement.timestampMs)
  Run.onHost do
    let offset ← HostRun.ofExcept (signedText measurement.offsetMs)
    HostRun.logLine .info .sync
      ("Clock synced via " ++ server ++ ": offset " ++ offset ++ "ms")

/-- Without an answer, the timebase goes back to the system clock. -/
def fallBack : Run Unit := do
  Run.onHost (HostRun.logLine .warning .sync
    ("All SNTP servers failed, using " ++ Clock.systemClock))
  let nowMs ← Run.onHost HostRun.nowMs
  Run.onTimebase (Clock.Timebase.update (systemUpdate nowMs) nowMs)

/-- Asks a server, with the fault for a value when one can be tolerated. -/
def ask (clientPath server : String) : Run (Except Fault (Option Sntp.Measurement)) :=
  Run.onHost do
    let nowMs ← HostRun.nowMs
    match ← HostRun.attempt (Sntp.query clientPath server nowMs) with
    | .ok answer => return .ok answer
    | .error fault => if isTolerated fault then return .error fault else throw fault

/-- Asks the servers in order until one answers. -/
def refreshFrom (clientPath : String) : List String → Run (Option Sntp.Measurement)
  | [] => do
      fallBack
      return none
  | server :: rest => do
      match ← ask clientPath server with
      | .error fault =>
          Run.onHost (HostRun.logLine .warning .sync
            ("SNTP query to " ++ server ++ " failed: " ++ fault.message))
          refreshFrom clientPath rest
      | .ok none =>
          Run.onHost (HostRun.logLine .debug .sync
            ("SNTP server " ++ server ++ " gave no usable answer"))
          refreshFrom clientPath rest
      | .ok (some measurement) =>
          applyMeasurement server measurement
          return some measurement

/-- One synchronisation; the measurement that was applied, or none. -/
def refresh (settings : Settings) : Run (Option Sntp.Measurement) :=
  refreshFrom settings.sntpPath settings.sntpServers

end Sync

end TestSignal
