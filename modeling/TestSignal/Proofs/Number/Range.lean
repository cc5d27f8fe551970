import TestSignal.Proofs.Number.Exact

namespace TestSignal

/-!
# Where the finite numbers end

A result is infinite when it rounds to the magnitude that would follow the last one.
The last magnitude has a significand of 53 ones and the widest spacing, so the first
count of units that is rounded beyond it is halfway to the next power of two: there
the tie goes up, because the last significand is odd.

Two things follow.  An integer has no nearest finite number exactly from
`2 ^ 1024 - 2 ^ 970` on, and adding one half to a finite number gives a finite one.
Hence rounding half up never fails on a finite number.
-/

/-! ## Comparing a rounded quotient -/

/-- A rounded quotient stays below an even bound as long as the quotient is less than
half a step below it.  At the tie the bound itself is the even neighbour. -/
theorem Rounding.nearestEven_lt_iff {numerator denominator bound : Nat}
    (positive : 0 < denominator) (even : bound % 2 = 0) :
    nearestEven numerator denominator < bound ↔
      2 * numerator < (2 * bound - 1) * denominator := by
  have split := Nat.div_add_mod numerator denominator
  have small := Nat.mod_lt numerator positive
  unfold nearestEven
  generalize numerator / denominator = quotient at split ⊢
  generalize numerator % denominator = remainder at split small ⊢
  have expanded : (2 * bound - 1) * denominator = 2 * (denominator * bound) - denominator := by
    rw [Nat.sub_mul, Nat.one_mul, Nat.mul_assoc, Nat.mul_comm bound]
  -- The quotient is below the bound by at least two, by one, or not at all.
  have far : quotient + 2 ≤ bound →
      denominator * quotient + 2 * denominator ≤ denominator * bound := by
    intro below
    rw [Nat.mul_comm 2, ← Nat.mul_add]
    exact Nat.mul_le_mul_left denominator below
  have near : quotient + 1 = bound →
      denominator * quotient + denominator = denominator * bound := by
    intro next
    rw [← next, Nat.mul_succ]
  have beyond : bound ≤ quotient → denominator * bound ≤ denominator * quotient :=
    Nat.mul_le_mul_left denominator
  rw [expanded, ← split]
  dsimp only
  rcases Nat.lt_trichotomy (2 * remainder) denominator with less | tie | more
  · rw [if_pos less]
    omega
  · rw [if_neg (by omega), if_neg (by omega)]
    omega
  · rw [if_neg (by omega), if_pos more]
    omega

/-! ## The limits -/

/-- The units of the greatest finite number. -/
def Binary64.greatestUnits : Nat := (2 ^ 53 - 1) * 2 ^ 2045

/-- The first count of units that is rounded beyond the finite numbers. -/
def Binary64.roundingLimit : Nat := (2 ^ 54 - 1) * 2 ^ 2044

/-- The first integer that is rounded beyond the finite numbers. -/
def Number.integerLimit : Nat := 2 ^ 1024 - 2 ^ 970

namespace Binary64

/-- The limits in order. The numbers are long, so they are compared once and for all. -/
theorem limits : magnitudesPerBlock ≤ unitsPerOne ∧ unitsPerOne ≤ greatestUnits ∧
    greatestUnits + unitsPerHalf < roundingLimit ∧
    (2 ^ 2097 ≤ roundingLimit ∧ roundingLimit ≤ 2 ^ 2098) ∧
    roundingLimit = Number.integerLimit * unitsPerOne ∧ 2 ^ 63 < Number.integerLimit := by
  decide +kernel

theorem magnitudesPerBlock_le_unitsPerOne : magnitudesPerBlock ≤ unitsPerOne := limits.1

theorem unitsPerOne_le_greatestUnits : unitsPerOne ≤ greatestUnits := limits.2.1

/-- The limit is more than one half beyond the greatest finite number. -/
theorem greatestUnits_add_half_lt : greatestUnits + unitsPerHalf < roundingLimit := limits.2.2.1

theorem roundingLimit_bounds : 2 ^ 2097 ≤ roundingLimit ∧ roundingLimit ≤ 2 ^ 2098 :=
  limits.2.2.2.1

theorem roundingLimit_eq : roundingLimit = Number.integerLimit * unitsPerOne := limits.2.2.2.2.1

end Binary64

/-- Integers that fit into a machine word are far from the limit. -/
theorem Number.two_pow_lt_integerLimit : 2 ^ 63 < integerLimit := Binary64.limits.2.2.2.2.2

namespace Binary64

/-! ## The last magnitude -/

theorem two_pow_le {small large : Nat} (ordered : small ≤ large) : 2 ^ small ≤ 2 ^ large :=
  Nat.pow_le_pow_right (by decide) ordered

theorem log2_of_bounds {number exponent next : Nat} (low : 2 ^ exponent ≤ number)
    (high : number < 2 ^ next) (follows : next = exponent + 1) : number.log2 = exponent := by
  have positive := Nat.two_pow_pos exponent
  rw [follows] at high
  exact (Nat.log2_eq_iff (by omega)).mpr ⟨low, high⟩

/-- The block of a count below the widest spacing has room for its rounding. -/
theorem nearestMagnitude_lt_of_lt {units : Nat} (low : units < 2 ^ 2097) :
    nearestMagnitude units 1 < magnitudeCount := by
  unfold nearestMagnitude
  dsimp only
  rw [Nat.div_one, Nat.one_mul]
  have width : units.log2 - 52 ≤ 2044 := by
    by_cases zero : units = 0
    · rw [zero]
      decide
    · have := (Nat.log2_lt zero).mpr low
      omega
  have quotient : units / 2 ^ (units.log2 - 52) < 2 ^ 53 := by
    rw [Nat.div_lt_iff_lt_mul (Nat.two_pow_pos _), ← Nat.pow_add]
    exact Nat.lt_of_lt_of_le Nat.lt_log2_self (two_pow_le (by omega))
  have rounded := (Rounding.nearestEven_bounds units (2 ^ (units.log2 - 52))).2
  have blocks := Nat.mul_le_mul_right magnitudesPerBlock width
  have block : magnitudesPerBlock = 2 ^ 52 := rfl
  unfold magnitudeCount
  rw [Nat.pow_eq]
  omega

/-- A count that fills a wider spacing than the widest one is beyond every magnitude. -/
theorem magnitudeCount_le_of_le {units : Nat} (high : 2 ^ 2098 ≤ units) :
    magnitudeCount ≤ nearestMagnitude units 1 := by
  unfold nearestMagnitude
  dsimp only
  rw [Nat.div_one, Nat.one_mul]
  have nonzero : units ≠ 0 := by
    have := Nat.two_pow_pos 2098
    omega
  have width : 2046 ≤ units.log2 - 52 := by
    have := (Nat.le_log2 nonzero).mpr high
    omega
  have quotient : 2 ^ 52 ≤ units / 2 ^ (units.log2 - 52) := by
    rw [Nat.le_div_iff_mul_le (Nat.two_pow_pos _), ← Nat.pow_add]
    exact Nat.le_trans (two_pow_le (by omega)) (Nat.log2_self_le nonzero)
  have rounded := (Rounding.nearestEven_bounds units (2 ^ (units.log2 - 52))).1
  have blocks := Nat.mul_le_mul_right magnitudesPerBlock width
  have block : magnitudesPerBlock = 2 ^ 52 := rfl
  unfold magnitudeCount
  rw [Nat.pow_eq]
  omega

/-- In a block of wide spacing the rounded significand decides. -/
theorem nearestMagnitude_lt_iff_of_log2 {units spacing : Nat}
    (width : units.log2 - 52 = spacing + 1) :
    nearestMagnitude units 1 < (spacing + 3) * magnitudesPerBlock ↔
      units < (2 ^ 54 - 1) * 2 ^ spacing := by
  have compared := @Rounding.nearestEven_lt_iff units (2 ^ (spacing + 1)) (2 ^ 53)
    (Nat.two_pow_pos _) (by decide)
  have block : magnitudesPerBlock = 2 ^ 52 := rfl
  unfold nearestMagnitude
  dsimp only
  rw [Nat.div_one, Nat.one_mul, Nat.pow_eq, width, block]
  generalize Rounding.nearestEven units (2 ^ (spacing + 1)) = significand at compared ⊢
  rw [Nat.pow_succ] at compared
  omega

/-- A count of units rounds to a magnitude exactly below the limit. -/
theorem nearestMagnitude_lt_iff (units : Nat) :
    nearestMagnitude units 1 < magnitudeCount ↔ units < roundingLimit := by
  rcases roundingLimit_bounds with ⟨lower, upper⟩
  rcases Nat.lt_or_ge units (2 ^ 2097) with low | middle
  · exact iff_of_true (nearestMagnitude_lt_of_lt low) (Nat.lt_of_lt_of_le low lower)
  rcases Nat.lt_or_ge units (2 ^ 2098) with inside | high
  · exact nearestMagnitude_lt_iff_of_log2 (by rw [log2_of_bounds middle inside rfl])
  · exact iff_of_false (Nat.not_lt.mpr (magnitudeCount_le_of_le high))
      (Nat.not_lt.mpr (Nat.le_trans upper high))

theorem isFinite_ofQuotient_iff (negative : Bool) (units : Nat) :
    (ofQuotient negative units 1).isFinite = true ↔ units < roundingLimit := by
  rw [← nearestMagnitude_lt_iff]
  unfold ofQuotient
  split
  case isTrue bounded => exact iff_of_true rfl bounded
  case isFalse beyond => exact iff_of_false Bool.false_ne_true beyond

/-! ## Sums with one half -/

theorem unitsOfMagnitude_le {magnitude : Nat} (bounded : magnitude < magnitudeCount) :
    unitsOfMagnitude magnitude ≤ greatestUnits := by
  have block : magnitudesPerBlock = 2 ^ 52 := rfl
  rcases magnitude_cases magnitude with low | ⟨fraction, spacing, short, rfl⟩
  · have widest : magnitudesPerBlock ≤ greatestUnits :=
      Nat.le_trans magnitudesPerBlock_le_unitsPerOne unitsPerOne_le_greatestUnits
    rw [unitsOfMagnitude_low low]
    omega
  · rw [unitsOfMagnitude_block short]
    have room : spacing + 1 < 2047 := by
      unfold magnitudeCount at bounded
      exact Nat.lt_of_mul_lt_mul_right (Nat.lt_of_le_of_lt (Nat.le_add_left _ _) bounded)
    have wide : 2 ^ spacing ≤ 2 ^ 2045 := two_pow_le (by omega)
    have full : magnitudesPerBlock + fraction ≤ 2 ^ 53 - 1 := by omega
    exact Nat.mul_le_mul full wide

theorem natAbs_le_greatestUnits {x : Binary64} {units : Int} (counted : x.units? = some units) :
    units.natAbs ≤ greatestUnits := by
  cases x with
  | infinite _ => cases counted
  | nan => cases counted
  | finite negative magnitude =>
      have size := unitsOfMagnitude_le magnitude.isLt
      have signed := Option.some.inj counted
      split at signed <;> omega

/-- A sum of finite numbers is finite exactly when it is below the limit in size. -/
theorem isFinite_add_iff {x y : Binary64} {a b : Int} (left : x.units? = some a)
    (right : y.units? = some b) :
    (x.add y).isFinite = true ↔ (a + b).natAbs < roundingLimit := by
  rcases add_eq_ofQuotient left right with ⟨sign, sum⟩
  rw [sum]
  split
  case isTrue zero =>
      rw [zero]
      exact isFinite_ofQuotient_iff _ _
  case isFalse => exact isFinite_ofQuotient_iff _ _

theorem exists_units?_of_isFinite {x : Binary64} (finite : x.isFinite = true) :
    ∃ units, x.units? = some units := by
  cases x with
  | finite negative magnitude => exact ⟨_, rfl⟩
  | infinite _ => cases finite
  | nan => cases finite

end Binary64

namespace Number

open Binary64

/-- One half more than a finite number is a finite number. -/
theorem isFinite_add_half {x : Binary64} (finite : x.isFinite = true) :
    (x.add half).isFinite = true := by
  rcases exists_units?_of_isFinite finite with ⟨units, counted⟩
  have size := natAbs_le_greatestUnits counted
  have limit := greatestUnits_add_half_lt
  rw [isFinite_add_iff counted units?_half]
  omega

/-- A finite number can be rounded half up. -/
theorem roundHalfUp_float {x : Binary64} (finite : x.isFinite = true) :
    ∃ rounded, roundHalfUp (float x) = .ok rounded := by
  rcases exists_units?_of_isFinite (isFinite_add_half finite) with ⟨units, counted⟩
  refine ⟨Int.fdiv units unitsPerOne, ?_⟩
  change floorInteger (x.add half) = _
  unfold floorInteger Binary64.floor?
  rw [counted]
  rfl

/-! ## Integers -/

theorem isFinite_ofQuotient_integer (negative : Bool) (size : Nat) :
    (ofQuotient negative (size * unitsPerOne) 1).isFinite = true ↔ size < integerLimit := by
  rw [isFinite_ofQuotient_iff, roundingLimit_eq, Nat.mul_lt_mul_right unitsPerOne_pos]

/-- An integer has a finite number nearest to it exactly below the limit. -/
theorem toBinary64_int_of_lt {value : Int} (small : value.natAbs < integerLimit) :
    ∃ x, (int value).toBinary64 = .ok x := by
  have finite := (isFinite_ofQuotient_integer (decide (value < 0)) value.natAbs).mpr small
  exact ⟨_, toBinary64_int.mpr (if_pos finite)⟩

theorem toBinary64_int_of_le {value : Int} (large : integerLimit ≤ value.natAbs) :
    (int value).toBinary64 = .error .integerTooLarge := by
  have none : ofInt? value = none := by
    refine if_neg fun finite => Nat.not_lt.mpr large ?_
    exact (isFinite_ofQuotient_integer (decide (value < 0)) value.natAbs).mp finite
  unfold toBinary64
  dsimp only
  rw [none]
  rfl

end Number

end TestSignal
