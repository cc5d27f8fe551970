import TestSignal.Clock.Timebase
import TestSignal.Expr

namespace TestSignal

namespace Clock

/-!
# The lines of the clock

The clock shows three lines: what it is synchronised to, universal time and
local time.  The engine draws the time itself.  A line is a template whose fields
are expressions of the stream time `t` and the frame number `n`, evaluated for
every frame:

    time shown = epoch + t + (pipeline latency + sync offset)

Hours, minutes and seconds are split off by subtracting whole multiples, so that
a time before 1970 is split as one after it.
-/

/-! ## Fields -/

/-- A template field: an expression shown as an integer with at least `width` digits. -/
structure Field where
  expr : Expr
  width : Nat

/-- A field as the template names it. -/
def Field.text (field : Field) : String :=
  "%\x7beif:" ++ field.expr.text ++ ":d:0" ++ toString field.width ++ "\x7d"

/-- The time of day within a count of seconds, split into fields. -/
structure TimeOfDay where
  hours : Field
  minutes : Field
  seconds : Field
  millis : Field

namespace TimeOfDay

/-- Whole units of `unit` seconds in a total. -/
def wholeUnits (total : Expr) (unit : Int) : Expr := .floor (.div total (.integer unit))

/-- The fields of a total count of seconds. -/
def ofTotal (total : Expr) : TimeOfDay where
  hours :=
    { expr := .sub (wholeUnits total 3600) (.mul 24 (wholeUnits total 86400)), width := 2 }
  minutes :=
    { expr := .sub (wholeUnits total 60) (.mul 60 (wholeUnits total 3600)), width := 2 }
  seconds := { expr := .sub (.floor total) (.mul 60 (wholeUnits total 60)), width := 2 }
  millis := { expr := .floor (.mul 1000 (.mod total 1)), width := 3 }

/-- Hours, minutes and seconds with colons between them. -/
def hms (time : TimeOfDay) : String :=
  time.hours.text ++ ":" ++ time.minutes.text ++ ":" ++ time.seconds.text

end TimeOfDay

/-- A frame rate that can be counted with: a finite positive number, or else 25. -/
def countingRate (fps : Value) : Except Fault Number := do
  match ← finiteNumber? fps with
  | some rate => return if (0 : Number).lt rate then rate else 25
  | none => return 25

/-- The number of the frame within its second. -/
def frameCounter (fps : Value) : Except Fault Field := do
  let rate ← countingRate fps
  return { expr := .mod (.symbol "n") (.short rate), width := 2 }

/-! ## Timing -/

/--
What the clock is made from: the timebase's timing as it was read.  The offset
and the uncertainty count only if they are finite numbers.
-/
structure Reading where
  epochMs : Number
  latencyMs : Number
  offsetMs : Value
  source : String
  uncertaintyMs : Value
  zone : Zone

/-- The timing that a timebase has now. -/
def Timebase.reading (timebase : Timebase) : Reading where
  epochMs := timebase.epochMs
  latencyMs := timebase.latencyMs
  offsetMs := .number timebase.offsetMs
  source := timebase.source
  uncertaintyMs := Timebase.optionalNumber timebase.uncertaintyMs
  zone := timebase.zone

structure Timing where
  syncLine : String
  utcLine : String
  localLine : String
  latencyMs : Number
  offsetMs : Number
  /-- The latency and the offset together. -/
  totalMs : Number

namespace Timing

def lines (timing : Timing) : List String :=
  [timing.syncLine, timing.utcLine, timing.localLine]

/-- Milliseconds as an expression in seconds, to six places. -/
def secondsExpr (millis : Number) : Except Fault Expr := do
  let seconds ← (← millis.div 1000).toBinary64
  return .fixed 6 seconds

/-- The total seconds of universal time, an expression of the stream time. -/
def utcTotal (epochMs totalMs : Number) : Except Fault Expr := do
  let epoch ← secondsExpr epochMs
  let total ← secondsExpr totalMs
  return .paren (.add (.add epoch (.symbol "t")) total)

/-- The total seconds of local time: those of universal time and the zone's offset. -/
def localTotal (utc : Expr) (offsetSeconds : Int) : Except Fault Expr := do
  let offset ← (Number.int offsetSeconds).toBinary64
  return .paren (.add utc (.fixed 6 offset))

/-- The instant at which the stream starts, as the clock shows it. -/
def reference (epochMs totalMs : Number) : Except Fault Instant := do
  let seconds ← (← (← epochMs.add totalMs).div 1000).toBinary64
  Instant.ofSeconds seconds

/-- Milliseconds with one place. -/
def millisText (millis : Number) : Except Fault String := do
  return (← millis.fixedText 1) ++ "ms"

/-- The offset with its sign; a minus sign comes from the number itself. -/
def offsetText (offsetMs : Number) : Except Fault String := do
  return (if (0 : Number).le offsetMs then "+" else "") ++ (← millisText offsetMs)

/-- The uncertainty behind a plus-minus sign, or nothing if it is not known. -/
def uncertaintyText : Option Number → Except Fault String
  | some uncertaintyMs => do return " +/-" ++ (← millisText uncertaintyMs)
  | none => .ok ""

/-- What the clock is synchronised to, the offset, and the uncertainty if it is known. -/
def syncText (source : String) (offsetMs : Number) (uncertaintyMs : Option Number) :
    Except Fault String := do
  let offset ← offsetText offsetMs
  return "SNTP " ++ (if source.isEmpty then systemClock else source) ++ " offset " ++ offset ++
    (← uncertaintyText uncertaintyMs)

/-- A line of the clock: its title, the time of day, the frame number and the milliseconds. -/
def clockLine (title : String) (total : Expr) (frames : Field) : String :=
  let time := TimeOfDay.ofTotal total
  title ++ " " ++ time.hms ++ ":" ++ frames.text ++ "." ++ time.millis.text

/--
The timing of a reading at a frame rate.  A latency that is a finite number
replaces the pipeline latency of the reading.
-/
def ofReading (reading : Reading) (fps latencyMs : Value) : Except Fault Timing := do
  let latency := (← finiteNumber? latencyMs).getD reading.latencyMs
  let offset := (← finiteNumber? reading.offsetMs).getD (.float Binary64.zero)
  let total ← latency.add offset
  let utc ← utcTotal reading.epochMs total
  let start ← reference reading.epochMs total
  let zone ← localZone start reading.zone
  let here ← localTotal utc zone.offsetSeconds
  let frames ← frameCounter fps
  let uncertainty ← finiteNumber? reading.uncertaintyMs
  return {
    syncLine := ← syncText reading.source offset uncertainty
    utcLine := clockLine ("UTC " ++ start.date.toText) utc frames
    localLine :=
      clockLine (zone.label ++ " " ++ zone.offsetLabel ++ " " ++ zone.date) here frames
    latencyMs := latency
    offsetMs := offset
    totalMs := total }

end Timing

end Clock

end TestSignal
