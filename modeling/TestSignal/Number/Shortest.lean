import TestSignal.Number.Binary64

namespace TestSignal

/-!
# The shortest decimal that reads back

A binary64 number is written with the fewest significant decimal digits that
still round to it; among decimals of that length the nearest to the exact value
is taken, and of two equally near ones the one with the even last digit.

For each count of digits only two decimals can qualify: the neighbours of the
exact value on the grid of that many digits.  The search is therefore a walk
through the counts one to seventeen, and seventeen digits always suffice.
-/

/-- The decimal `coefficient * 10 ^ exponent`. -/
structure Decimal where
  coefficient : Nat
  exponent : Int
  deriving DecidableEq

namespace Decimal

/-- How many digits a natural number is written with. -/
def digitCount (n : Nat) : Nat := (Nat.toDigits 10 n).length

/--
The exponent of the first significant digit of `numerator / denominator`,
a positive quotient: the greatest `e` with `10 ^ e` at most the quotient.
-/
def leadingExponent (numerator denominator : Nat) : Int :=
  if denominator ≤ numerator then digitCount (numerator / denominator) - 1
  else -(digitCount ((denominator - 1) / numerator) : Int)

/-- A positive quotient measured in steps of `10 ^ exponent`, as a fraction. -/
def inSteps (numerator denominator : Nat) (exponent : Int) : Nat × Nat :=
  if 0 ≤ exponent then (numerator, denominator * Nat.pow 10 exponent.toNat)
  else (numerator * Nat.pow 10 (-exponent).toNat, denominator)

/-- The open or closed interval of quotients that round to one number. -/
structure Interval where
  low : Nat
  high : Nat
  closed : Bool

/-- Whether `steps * 10 ^ exponent` lies in an interval given over `denominator`. -/
def Interval.holds (interval : Interval) (denominator steps : Nat) (exponent : Int) : Bool :=
  let (low, lowDenominator) := inSteps interval.low denominator exponent
  let (high, highDenominator) := inSteps interval.high denominator exponent
  if interval.closed then
    decide (low ≤ steps * lowDenominator) && decide (steps * highDenominator ≤ high)
  else decide (low < steps * lowDenominator) && decide (steps * highDenominator < high)

/--
The better of the two neighbours of the quotient on the grid `10 ^ exponent`
that lies in the interval, if one does.
-/
def neighbour? (interval : Interval) (numerator denominator : Nat) (exponent : Int) :
    Option Nat :=
  let (scaled, unit) := inSteps numerator denominator exponent
  let below := scaled / unit
  let twiceRemainder := 2 * (scaled % unit)
  match interval.holds denominator below exponent,
      interval.holds denominator (below + 1) exponent with
  | true, true =>
      if twiceRemainder < unit then some below
      else if unit < twiceRemainder then some (below + 1)
      else some (below + below % 2)
  | true, false => some below
  | false, true => some (below + 1)
  | false, false => none

/--
Steps on a grid as a decimal.  A number just below a power of ten may have that
power as its neighbour on the coarsest grid; ten steps are then one digit of the
next place.
-/
def ofSteps (steps : Nat) (exponent : Int) : Decimal :=
  if steps = 10 then ⟨1, exponent + 1⟩ else ⟨steps, exponent⟩

/-- Tries the digit counts from `17 - fuel + 1` up to seventeen. -/
def searchFrom (interval : Interval) (numerator denominator : Nat) (leading : Int) :
    Nat → Decimal
  | 0 => ⟨0, 0⟩
  | fuel + 1 =>
      let exponent := leading - (16 - fuel : Nat)
      match neighbour? interval numerator denominator exponent with
      | some steps => ofSteps steps exponent
      | none => searchFrom interval numerator denominator leading fuel

end Decimal

namespace Binary64

/--
The shortest decimal of a positive magnitude.  The quotients that round to a
magnitude reach halfway to each neighbour, and include the ends exactly when
the magnitude is even.  Everything is counted in half units.
-/
def shortestDecimal (magnitude : Nat) : Decimal :=
  let units := unitsOfMagnitude magnitude
  let interval : Decimal.Interval :=
    { low := unitsOfMagnitude (magnitude - 1) + units
      high := units + unitsOfMagnitude (magnitude + 1)
      closed := magnitude % 2 = 0 }
  let denominator := 2 * unitsPerOne
  let numerator := 2 * units
  Decimal.searchFrom interval numerator denominator
    (Decimal.leadingExponent numerator denominator) 17

end Binary64

end TestSignal
