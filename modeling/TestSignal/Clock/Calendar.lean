import TestSignal.Number.Basic
import TestSignal.Number.Fixed

namespace TestSignal

namespace Clock

/-!
# Instants and dates

An instant is a count of microseconds since the start of 1970 in UTC.  Dates are
those of the Gregorian calendar carried back before its introduction, in the
years 1 to 9999; an instant outside them has no date here.
-/

def secondsPerDay : Nat := 86400

def microsPerSecond : Nat := 1000000

/-! ## Dates -/

structure Date where
  year : Int
  month : Nat
  day : Nat
  deriving DecidableEq

namespace Date

/--
The date of a day, counted from the first day of 1970.  Years are taken to begin
in March, so that the leap day is the last of its year; four centuries have
146097 days.
-/
def ofDay (day : Int) : Date :=
  let shifted := day + 719468
  let era := Int.fdiv shifted 146097
  let dayOfEra := (shifted - era * 146097).toNat
  let yearOfEra :=
    (dayOfEra - dayOfEra / 1460 + dayOfEra / 36524 - dayOfEra / 146096) / 365
  let dayOfYear := dayOfEra - (365 * yearOfEra + yearOfEra / 4 - yearOfEra / 100)
  let marchMonth := (5 * dayOfYear + 2) / 153
  let month := if marchMonth < 10 then marchMonth + 3 else marchMonth - 9
  { year := yearOfEra + era * 400 + (if month ≤ 2 then 1 else 0)
    month
    day := dayOfYear - (153 * marchMonth + 2) / 5 + 1 }

def inRange (date : Date) : Bool := 1 ≤ date.year && date.year ≤ 9999

/-- Year, month and day; the year has no leading zeros. -/
def toText (date : Date) : String :=
  toString date.year ++ "-" ++ FixedDecimal.padDigits 2 date.month ++ "-" ++
    FixedDecimal.padDigits 2 date.day

end Date

/-! ## Instants -/

structure Instant where
  micros : Int
  deriving DecidableEq

namespace Instant

/-- The seconds that a signed 64-bit count can hold. -/
def secondLimit : Int := Nat.pow 2 63

/-- The years that a signed 32-bit count from 1900 can hold. -/
def yearLimit : Int := Nat.pow 2 31

/-- The microseconds of a fraction of a second below one, to the nearest, ties to even. -/
def fractionMicros (fraction : Binary64) : Int :=
  let scaled := fraction.mul (Binary64.ofDecimal false microsPerSecond 0)
  match scaled with
  | .finite negative magnitude =>
      let size : Int :=
        Rounding.nearestEven (Binary64.unitsOfMagnitude magnitude.val) unitsPerOne
      if negative then -size else size
  | _ => 0

/-- The microseconds of a finite count of seconds, its whole part counted exactly. -/
def microsOf? (seconds : Binary64) : Option Int := do
  let whole ← seconds.truncate?
  let wholeNumber := (Binary64.ofInt? whole).getD .zero
  return whole * microsPerSecond + fractionMicros (seconds.sub wholeNumber)

/-- The date of an instant in UTC, whatever its year. -/
def date (instant : Instant) : Date :=
  Date.ofDay (Int.fdiv instant.micros (secondsPerDay * microsPerSecond))

/-- A year as a fault tells it: in 32 bits, as the years themselves are counted. -/
def toldYear (year : Int) : Int := Int.bmod year (Nat.pow 2 32)

/-- The instant of a count of seconds, if its year is one of a date. -/
def ofSeconds (seconds : Binary64) : Except Fault Instant :=
  match seconds.truncate? with
  | none => .error (if seconds = .nan then .undefinedInstant else .instantTooLarge)
  | some whole =>
      if whole < -secondLimit || secondLimit ≤ whole then .error .instantTooLarge
      else
        let instant : Instant := ⟨(microsOf? seconds).getD 0⟩
        let date := instant.date
        if date.year - 1900 < -yearLimit || yearLimit ≤ date.year - 1900 then
          .error .instantBeyondCalendar
        else if date.inRange then .ok instant
        else .error (.yearOutOfRange (toldYear date.year))

end Instant

end Clock

end TestSignal
