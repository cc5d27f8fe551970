namespace TestSignal

namespace Rounding

/-!
# Rounding a quotient of natural numbers

Every rounding of the library is a rounding of an exact quotient: a binary
fraction to the nearest binary64 number, or a binary64 number to a fixed count
of decimal places.  Both use the one rule below, nearest neighbour with ties
to the even one, so that the result depends on the exact quotient alone.
-/

/--
The integer nearest to `numerator / denominator`; of two equally near ones the
even one.  The remainder decides on which side of the midpoint the quotient is.
-/
def nearestEven (numerator denominator : Nat) : Nat :=
  let quotient := numerator / denominator
  let twiceRemainder := 2 * (numerator % denominator)
  if twiceRemainder < denominator then quotient
  else if denominator < twiceRemainder then quotient + 1
  else quotient + quotient % 2

/-- The rounded quotient is the quotient or its successor. -/
theorem nearestEven_bounds (numerator denominator : Nat) :
    numerator / denominator ≤ nearestEven numerator denominator ∧
      nearestEven numerator denominator ≤ numerator / denominator + 1 := by
  unfold nearestEven
  have parity : numerator / denominator % 2 < 2 := Nat.mod_lt _ (by decide)
  dsimp only
  split
  · omega
  · split <;> omega

/-- An exact quotient is left alone. -/
theorem nearestEven_mul (quotient denominator : Nat) (positive : 0 < denominator) :
    nearestEven (quotient * denominator) denominator = quotient := by
  simp [nearestEven, Nat.mul_div_cancel quotient positive, positive]

end Rounding

end TestSignal
