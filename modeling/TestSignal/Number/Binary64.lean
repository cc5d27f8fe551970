import TestSignal.Number.Rounding

namespace TestSignal

/-!
# Binary64 numbers as exact data

A control surface sends decimal numbers and the emitted command prints numbers
again, so the library computes with the numbers of the binary64 format.  They
are modelled as data: a finite number is a sign and a *magnitude*, its place in
the increasing list of the nonnegative finite numbers of the format.  Every
finite number is an integer multiple of the least positive one, `2 ^ -1074`,
and `units` is that integer.  An operation computes the exact result in units
and then rounds once, to the nearest magnitude, ties to the even one.

Nothing here uses machine floating point: each operation is integer arithmetic
that proofs can unfold.
-/

/-- How many magnitudes are spaced alike, `2 ^ 52`. -/
def magnitudesPerBlock : Nat := Nat.pow 2 52

/-- The count of finite magnitudes; a rounding that reaches it is infinite. -/
def magnitudeCount : Nat := 2047 * magnitudesPerBlock

/-- How many units, of `2 ^ -1074` each, make one. -/
def unitsPerOne : Nat := Nat.pow 2 1074

/-- A number of the binary64 format. Both zeros are finite, with magnitude `0`. -/
inductive Binary64 where
  | finite (negative : Bool) (magnitude : Fin magnitudeCount)
  | infinite (negative : Bool)
  | nan
  deriving DecidableEq

namespace Binary64

/-! ## Magnitudes and units -/

theorem unitsPerOne_eq_pow : unitsPerOne = Nat.pow 2 1074 := by
  unfold unitsPerOne
  rfl

theorem pos_of_eq_pow {units width : Nat} (same : units = Nat.pow 2 width) : 0 < units := by
  rw [same, Nat.pow_eq]
  exact Nat.two_pow_pos width

theorem unitsPerOne_pos : 0 < unitsPerOne := pos_of_eq_pow unitsPerOne_eq_pow

/--
The units of a magnitude.  Below `2 ^ 52` magnitudes count units; above, each
block of `2 ^ 52` magnitudes is spaced twice as wide as the one before it.
-/
def unitsOfMagnitude (magnitude : Nat) : Nat :=
  let block := magnitude / magnitudesPerBlock
  let fraction := magnitude % magnitudesPerBlock
  if block = 0 then fraction else (magnitudesPerBlock + fraction) * Nat.pow 2 (block - 1)

/--
The magnitude nearest to `numerator / denominator` units.  The spacing at the
quotient is a power of two; rounding up to the next block needs no special
case, since the next block starts where this one ends.
-/
def nearestMagnitude (numerator denominator : Nat) : Nat :=
  let spacing := (numerator / denominator).log2 - 52
  Rounding.nearestEven numerator (denominator * Nat.pow 2 spacing) + spacing * magnitudesPerBlock

/-- The number of the given sign nearest to `numerator / denominator` units. -/
def ofQuotient (negative : Bool) (numerator denominator : Nat) : Binary64 :=
  if bounded : nearestMagnitude numerator denominator < magnitudeCount then
    finite negative ⟨nearestMagnitude numerator denominator, bounded⟩
  else infinite negative

/-- The positive zero. -/
def zero : Binary64 := ofQuotient false 0 1

/-- The signed count of units of a finite number; both zeros have none. -/
def units? : Binary64 → Option Int
  | finite negative magnitude =>
      let size : Int := unitsOfMagnitude magnitude.val
      some (if negative then -size else size)
  | _ => none

def isFinite : Binary64 → Bool
  | finite _ _ => true
  | _ => false

def isNegative : Binary64 → Bool
  | finite negative _ => negative
  | infinite negative => negative
  | nan => false

def neg : Binary64 → Binary64
  | finite negative magnitude => finite (!negative) magnitude
  | infinite negative => infinite (!negative)
  | nan => nan

/-- A number if it is finite. -/
def finite? (x : Binary64) : Option Binary64 := if x.isFinite then some x else none

/-! ## Conversions -/

/-- The number nearest to an integer, or nothing when that would be infinite. -/
def ofInt? (value : Int) : Option Binary64 :=
  (ofQuotient (decide (value < 0)) (value.natAbs * unitsPerOne) 1).finite?

/--
The number nearest to `coefficient * 10 ^ exponent`.  Decimal exponents far
outside the format are answered without forming the power: more than 310
digits before the point is infinite, a first digit below `10 ^ -330` is zero.
-/
def ofDecimal (negative : Bool) (coefficient : Nat) (exponent : Int) : Binary64 :=
  let digits : Int := (Nat.toDigits 10 coefficient).length
  if coefficient = 0 then ofQuotient negative 0 1
  else if 310 < digits + exponent then infinite negative
  else if digits + exponent < -330 then ofQuotient negative 0 1
  else if 0 ≤ exponent then
    ofQuotient negative (coefficient * Nat.pow 10 exponent.toNat * unitsPerOne) 1
  else ofQuotient negative (coefficient * unitsPerOne) (Nat.pow 10 (-exponent).toNat)

/-! ## Arithmetic -/

/-- The exact sum, rounded. A sum of zero is negative only when both terms are. -/
def add : Binary64 → Binary64 → Binary64
  | nan, _ => nan
  | _, nan => nan
  | infinite left, infinite right => if left = right then infinite left else nan
  | infinite left, finite _ _ => infinite left
  | finite _ _, infinite right => infinite right
  | finite left a, finite right b =>
      let signed (negative : Bool) (magnitude : Nat) : Int :=
        if negative then -(unitsOfMagnitude magnitude : Int) else unitsOfMagnitude magnitude
      let sum := signed left a.val + signed right b.val
      if sum = 0 then ofQuotient (left && right) 0 1
      else ofQuotient (decide (sum < 0)) sum.natAbs 1

def sub (a b : Binary64) : Binary64 := add a b.neg

/-- The exact product, rounded. -/
def mul : Binary64 → Binary64 → Binary64
  | nan, _ => nan
  | _, nan => nan
  | infinite left, infinite right => infinite (left != right)
  | infinite left, finite right b => if b.val = 0 then nan else infinite (left != right)
  | finite left a, infinite right => if a.val = 0 then nan else infinite (left != right)
  | finite left a, finite right b =>
      ofQuotient (left != right) (unitsOfMagnitude a.val * unitsOfMagnitude b.val) unitsPerOne

/-- The exact quotient, rounded. -/
def div : Binary64 → Binary64 → Binary64
  | nan, _ => nan
  | _, nan => nan
  | infinite _, infinite _ => nan
  | infinite left, finite right _ => infinite (left != right)
  | finite left _, infinite right => ofQuotient (left != right) 0 1
  | finite left a, finite right b =>
      if b.val = 0 then (if a.val = 0 then nan else infinite (left != right))
      else ofQuotient (left != right) (unitsOfMagnitude a.val * unitsPerOne)
        (unitsOfMagnitude b.val)

/-! ## Integers inside the format -/

/-- The greatest integer not above a finite number. -/
def floor? (x : Binary64) : Option Int :=
  x.units?.map fun units => Int.fdiv units unitsPerOne

/-- The integer that a finite number is, if it is one. -/
def integer? (x : Binary64) : Option Int :=
  match x.units? with
  | some units =>
      if Int.fmod units unitsPerOne = 0 then some (Int.fdiv units unitsPerOne) else none
  | none => none

/-- A finite number cut off toward zero. -/
def truncate? (x : Binary64) : Option Int :=
  x.units?.map fun units => Int.tdiv units unitsPerOne

/-- The number nearest to a finite one that has `places` decimal places, ties to even. -/
def roundPlaces (places : Nat) : Binary64 → Binary64
  | finite negative magnitude =>
      let scaled :=
        Rounding.nearestEven (unitsOfMagnitude magnitude.val * Nat.pow 10 places) unitsPerOne
      ofQuotient negative (scaled * unitsPerOne) (Nat.pow 10 places)
  | other => other

end Binary64

end TestSignal
