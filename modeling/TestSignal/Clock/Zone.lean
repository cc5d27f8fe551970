import TestSignal.Clock.Calendar
import TestSignal.Number.Written

namespace TestSignal

namespace Clock

/-!
# Time zones

A zone has an offset from UTC, which may have a fraction of a second, perhaps a
short name, and perhaps a key such as that of a city.  The clock's local line
shows the key with the short name after it, unless the key already contains it.
-/

structure Zone where
  offsetMicros : Int
  shortName : Option String
  key : Option String := none
  deriving DecidableEq

namespace Zone

/-- Universal time, the zone of a host without another. -/
def utc : Zone := { offsetMicros := 0, shortName := some "UTC" }

/-- The microseconds of a count of seconds; what is not finite has none. -/
def microsOf (seconds : Number) : Int :=
  match seconds with
  | .int whole => whole * microsPerSecond
  | .float x => (Instant.microsOf? x).getD 0

/-- The name of an offset: hours and minutes, and what is smaller where it is not zero. -/
def offsetName (micros : Int) : String :=
  if micros = 0 then "UTC"
  else
    let total := micros.natAbs
    let seconds := total / microsPerSecond
    let fraction := total % microsPerSecond
    let two (n : Nat) : String := FixedDecimal.padDigits 2 n
    "UTC" ++ (if micros < 0 then "-" else "+") ++ two (seconds / 3600) ++ ":" ++
      two (seconds / 60 % 60) ++
      (if seconds % 60 = 0 && fraction = 0 then "" else ":" ++ two (seconds % 60)) ++
      (if fraction = 0 then "" else "." ++ FixedDecimal.padDigits 6 fraction)

/-- A fixed offset; without a name of its own it is named by the offset. -/
def fixed (offsetMicros : Int) (name : Option String) : Zone :=
  { offsetMicros, shortName := some (name.getD (offsetName offsetMicros)) }

/-- The whole seconds of the offset, cut off toward zero. -/
def offsetSeconds (zone : Zone) : Int := Int.tdiv zone.offsetMicros microsPerSecond

/-- Whether a text stands somewhere inside another. -/
def occursIn (part : List Char) : List Char → Bool
  | [] => part.isEmpty
  | c :: rest => part.isPrefixOf (c :: rest) || occursIn part rest

/-- The key, or the short name, or a plain word. -/
def title (zone : Zone) : String :=
  let short := zone.shortName.getD ""
  match zone.key.filter fun key => !key.isEmpty with
  | some key => key
  | none => if short.isEmpty then "Local" else short

/-- The title, with the short name after it when that says more. -/
def label (zone : Zone) : String :=
  let short := zone.shortName.getD ""
  if !short.isEmpty && !occursIn short.toList zone.title.toList then
    zone.title ++ " (" ++ short ++ ")"
  else zone.title

/-- An offset in minutes as a sign, hours and minutes, rounded half up. -/
def offsetText (minutesEast : Number) : Except Fault String := do
  let total := (← Number.roundHalfUp minutesEast).natAbs
  return (if (0 : Number).le minutesEast then "+" else "-") ++
    FixedDecimal.padDigits 2 (total / 60) ++ ":" ++ FixedDecimal.padDigits 2 (total % 60)

end Zone

/-! ## Local dates -/

/-- What the clock shows of the zone at an instant. -/
structure LocalZone where
  label : String
  offsetSeconds : Int
  offsetLabel : String
  date : String

/-- The zone at an instant; the local date must be one of the years 1 to 9999. -/
def localZone (instant : Instant) (zone : Zone) : Except Fault LocalZone := do
  let here : Instant := ⟨instant.micros + zone.offsetMicros⟩
  if here.date.inRange then
    let minutes ← (Number.int zone.offsetSeconds).div 60
    return {
      label := zone.label
      offsetSeconds := zone.offsetSeconds
      offsetLabel := ← Zone.offsetText minutes
      date := here.date.toText }
  else throw .dateOutOfRange

end Clock

end TestSignal
