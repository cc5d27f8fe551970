import TestSignal.Clock.Zone
import TestSignal.Text.Blank
import TestSignal.Value

namespace TestSignal

namespace Clock

/-!
# The timebase

The timebase anchors the on-screen clock: the wall-clock time at which the
stream starts, the latency of the pipeline, and the offset that the last
synchronisation measured.  It is shared by every compile and by the
synchronisation, which write it by `update` and read it whole.

An update names the fields it changes.  A value that a field cannot take is
ignored and leaves that field alone.  The fields are written one after the
other; an integer too large to be judged finite ends the update there.
-/

/-- The name of the time source when no server has been asked. -/
def systemClock : String := "system clock"

structure Timebase where
  epochMs : Number
  latencyMs : Number := 200
  offsetMs : Number := .float Binary64.zero
  source : String := systemClock
  uncertaintyMs : Option Number := none
  lastSyncMs : Option Number := none
  zone : Zone := .utc
  deriving DecidableEq

/-- The number that a value is, if it is a finite one; a flag is not a number. -/
def finiteNumber? (value : Value) : Except Fault (Option Number) :=
  match value with
  | .number number => do return if ← number.isFinite then some number else none
  | _ => .ok none

/-- The arguments of an update. Only the last two tell apart what is null and what is left out. -/
structure TimebaseUpdate where
  latencyMs : Value := .null
  offsetMs : Value := .null
  source : Value := .null
  epochMs : Value := .null
  freezeEpoch : Bool := false
  uncertaintyMs : Option Value := none
  timestampMs : Option Value := none

namespace Timebase

/-- A step that changes the timebase, and keeps the change if a later step faults. -/
abbrev Step := ExceptT Fault (StateM Timebase) Unit

def judge (value : Value) : ExceptT Fault (StateM Timebase) (Option Number) :=
  fun timebase => (finiteNumber? value, timebase)

def change (write : Timebase → Timebase) : Step := fun timebase => (.ok (), write timebase)

/-- A latency is finite and not negative. -/
def setLatency (value : Value) : Step := do
  match ← judge value with
  | some latency =>
      if (0 : Number).le latency then
        change fun timebase => { timebase with latencyMs := latency }
      else pure ()
  | none => pure ()

def setOffset (value : Value) : Step := do
  match ← judge value with
  | some offset => change fun timebase => { timebase with offsetMs := offset }
  | none => pure ()

/-- A source is a text that is not blank, and is kept without blanks around it. -/
def setSource (value : Value) : Step :=
  match value with
  | .string text =>
      if Text.hasInk text then change fun timebase => { timebase with source := Text.trim text }
      else pure ()
  | _ => pure ()

/-- Null clears an optional number, and a finite number replaces it. -/
def setOptional (write : Option Number → Timebase → Timebase) (value : Option Value) : Step :=
  match value with
  | none => pure ()
  | some .null => change (write none)
  | some other => do
      match ← judge other with
      | some number => change (write (some number))
      | none => pure ()

/-- A given epoch is taken; otherwise the epoch becomes the present time unless it is frozen. -/
def setEpoch (value : Value) (freeze : Bool) (nowMs : Number) : Step := do
  match ← judge value with
  | some epoch => change fun timebase => { timebase with epochMs := epoch }
  | none =>
      if freeze then pure () else change fun timebase => { timebase with epochMs := nowMs }

/-- Applies an update at the present time, field by field. -/
def update (arguments : TimebaseUpdate) (nowMs : Number) : Step := do
  setLatency arguments.latencyMs
  setOffset arguments.offsetMs
  setOptional (fun number timebase => { timebase with uncertaintyMs := number })
    arguments.uncertaintyMs
  setSource arguments.source
  setOptional (fun number timebase => { timebase with lastSyncMs := number })
    arguments.timestampMs
  setEpoch arguments.epochMs arguments.freezeEpoch nowMs

/-- An optional number, absent as null. -/
def optionalNumber : Option Number → Value
  | some number => .number number
  | none => .null

/-- The timing that a control surface is shown. -/
def toValue (timebase : Timebase) : Value :=
  .object
    [ ("epochMs", .number timebase.epochMs),
      ("latencyMs", .number timebase.latencyMs),
      ("offsetMs", .number timebase.offsetMs),
      ("source", .string timebase.source),
      ("dispersionMs", optionalNumber timebase.uncertaintyMs),
      ("timestamp", optionalNumber timebase.lastSyncMs) ]

end Timebase

end Clock

end TestSignal
