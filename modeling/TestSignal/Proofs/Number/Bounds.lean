import TestSignal.Proofs.Number.Range

namespace TestSignal

/-!
# Bounds that rounding respects

A result is rounded to the nearest magnitude, so it does not leave a bound that is a
magnitude itself.  `Within` says that a number is finite and at most so many units in size;
it is carried through sums, products and quotients by bounding the exact result.

A number that is known to be within a bound can be rounded half up, and the integer is
within the bound and one.  In this way a step that needs a finite number is reached with
one.
-/

/-- A rounded quotient does not exceed an integer that the quotient does not exceed. -/
theorem Rounding.nearestEven_le {numerator denominator bound : Nat}
    (positive : 0 < denominator) (below : numerator ≤ bound * denominator) :
    nearestEven numerator denominator ≤ bound := by
  have rounded := (nearestEven_bounds numerator denominator).2
  rcases Nat.lt_or_ge (numerator / denominator) bound with less | reached
  · omega
  · -- The quotient reaches the bound only if it is the bound.
    have whole : numerator = bound * denominator :=
      Nat.le_antisymm below ((Nat.le_div_iff_mul_le positive).mp reached)
    rw [whole]
    exact Nat.le_of_eq (nearestEven_mul bound denominator positive)

namespace Binary64

/-! ## Magnitudes -/

/-- A count whose quotient has few bits is rounded within a significand of its spacing. -/
theorem nearestEven_le_of_log2 (numerator : Nat) {denominator : Nat}
    (positive : 0 < denominator) :
    Rounding.nearestEven numerator
      (denominator * 2 ^ ((numerator / denominator).log2 - 52)) ≤ 2 ^ 53 := by
  have spaced : 0 < denominator * 2 ^ ((numerator / denominator).log2 - 52) :=
    Nat.mul_pos positive (Nat.two_pow_pos _)
  refine Rounding.nearestEven_le spaced ?_
  have width : numerator / denominator < 2 ^ (53 + ((numerator / denominator).log2 - 52)) :=
    Nat.lt_of_lt_of_le Nat.lt_log2_self (two_pow_le (by omega))
  calc numerator
      ≤ 2 ^ (53 + ((numerator / denominator).log2 - 52)) * denominator :=
        Nat.le_of_lt ((Nat.div_lt_iff_lt_mul positive).mp width)
    _ = 2 ^ 53 * (denominator * 2 ^ ((numerator / denominator).log2 - 52)) := by
        rw [Nat.pow_add, Nat.mul_assoc, Nat.mul_comm denominator]

/-- A short count of units is spaced no wider than its excess of bits. -/
theorem log2_sub_le {units spacing : Nat} (short : units < 2 ^ (53 + spacing)) :
    units.log2 - 52 ≤ spacing := by
  by_cases zero : units = 0
  · rw [zero]
    exact Nat.zero_le spacing
  · have := (Nat.log2_lt zero).mpr short
    omega

/-- A quotient is rounded to no greater magnitude than one whose units it does not exceed. -/
theorem nearestMagnitude_le {numerator denominator magnitude : Nat} (positive : 0 < denominator)
    (below : numerator ≤ unitsOfMagnitude magnitude * denominator) :
    nearestMagnitude numerator denominator ≤ magnitude := by
  have quotient : numerator / denominator ≤ unitsOfMagnitude magnitude :=
    Nat.div_le_of_le_mul (by rw [Nat.mul_comm]; exact below)
  have block : magnitudesPerBlock = 2 ^ 52 := rfl
  have significand := nearestEven_le_of_log2 numerator positive
  unfold nearestMagnitude
  dsimp only
  rw [Nat.pow_eq]
  rcases magnitude_cases magnitude with low | ⟨fraction, spacing, short, rfl⟩
  · rw [unitsOfMagnitude_low low] at below quotient
    have narrow : (numerator / denominator).log2 - 52 ≤ 0 := log2_sub_le (by omega)
    rw [Nat.le_zero.mp narrow, Nat.pow_zero, Nat.mul_one, Nat.zero_mul, Nat.add_zero]
    exact Rounding.nearestEven_le positive below
  · rw [unitsOfMagnitude_block short] at below quotient
    have bounded : (magnitudesPerBlock + fraction) * 2 ^ spacing < 2 ^ (53 + spacing) := by
      rw [Nat.pow_add]
      exact Nat.mul_lt_mul_of_pos_right (by omega) (Nat.two_pow_pos spacing)
    have width := log2_sub_le (Nat.lt_of_le_of_lt quotient bounded)
    rcases Nat.lt_or_eq_of_le width with narrower | same
    · -- A narrower spacing ends at the latest where the block of the magnitude begins.
      have blocks := Nat.mul_le_mul_right magnitudesPerBlock narrower
      rw [Nat.succ_mul] at blocks ⊢
      omega
    · rw [same, Nat.succ_mul]
      have spaced : 0 < denominator * 2 ^ spacing :=
        Nat.mul_pos positive (Nat.two_pow_pos spacing)
      rw [Nat.mul_assoc, Nat.mul_comm _ denominator] at below
      have rounded := Rounding.nearestEven_le spaced below
      omega

/-- Greater magnitudes have more units. -/
theorem unitsOfMagnitude_mono {small large : Nat} (ordered : small ≤ large) :
    unitsOfMagnitude small ≤ unitsOfMagnitude large := by
  rcases magnitude_cases large with low | ⟨fraction, spacing, short, rfl⟩
  · rw [unitsOfMagnitude_low low, unitsOfMagnitude_low (Nat.lt_of_le_of_lt ordered low)]
    exact ordered
  · rw [unitsOfMagnitude_block short]
    rcases magnitude_cases small with low | ⟨smallFraction, smallSpacing, smallShort, rfl⟩
    · rw [unitsOfMagnitude_low low]
      calc small ≤ magnitudesPerBlock + fraction := by omega
        _ ≤ (magnitudesPerBlock + fraction) * 2 ^ spacing :=
          Nat.le_mul_of_pos_right _ (Nat.two_pow_pos spacing)
    · rw [unitsOfMagnitude_block smallShort]
      have blocks : smallSpacing ≤ spacing := by
        apply Nat.le_of_not_lt
        intro wider
        have := Nat.mul_le_mul_right magnitudesPerBlock wider
        rw [Nat.succ_mul] at this
        rw [Nat.succ_mul, Nat.succ_mul] at ordered
        omega
      rcases Nat.lt_or_eq_of_le blocks with narrower | rfl
      · calc (magnitudesPerBlock + smallFraction) * 2 ^ smallSpacing
            ≤ (2 * magnitudesPerBlock) * 2 ^ smallSpacing :=
              Nat.mul_le_mul_right _ (by omega)
          _ = magnitudesPerBlock * 2 ^ (smallSpacing + 1) := by
              rw [Nat.pow_succ, Nat.mul_comm 2, Nat.mul_assoc, Nat.mul_comm 2]
          _ ≤ (magnitudesPerBlock + fraction) * 2 ^ spacing :=
              Nat.mul_le_mul (Nat.le_add_right _ _) (two_pow_le narrower)
      · exact Nat.mul_le_mul_right _ (by omega)

/-! ## Numbers within a bound -/

/-- A finite number of at most so many units in size. -/
def Within (bound : Nat) (x : Binary64) : Prop :=
  ∃ units, x.units? = some units ∧ units.natAbs ≤ bound

theorem within_finite {bound : Nat} {negative : Bool} {magnitude : Fin magnitudeCount} :
    Within bound (finite negative magnitude) ↔ unitsOfMagnitude magnitude.val ≤ bound := by
  have size : ∀ units, (finite negative magnitude).units? = some units →
      units.natAbs = unitsOfMagnitude magnitude.val := by
    intro units counted
    have signed := Option.some.inj counted
    split at signed <;> omega
  constructor
  · rintro ⟨units, counted, bounded⟩
    rw [← size units counted]
    exact bounded
  · intro bounded
    refine ⟨_, rfl, ?_⟩
    rw [size _ rfl]
    exact bounded

theorem held_greatestUnits : Held greatestUnits := held_shift (by decide) (by decide)

/-- A moderate power of two is held. -/
theorem held_two_pow {shift : Nat} (room : shift ≤ 900) : Held (2 ^ shift * unitsPerOne) := by
  have shifted {unit width : Nat} (same : unit = Nat.pow 2 width)
      (narrow : shift + width ≤ 2045) : Held (2 ^ shift * unit) := by
    have held : Held (1 * 2 ^ (shift + width)) := held_shift (by decide) narrow
    rwa [Nat.one_mul, Nat.pow_add, ← Nat.pow_eq, ← Nat.pow_eq, ← same, Nat.pow_eq] at held
  exact shifted unitsPerOne_eq_pow (by omega)

theorem within_of_isFinite {x : Binary64} (finite : x.isFinite = true) :
    Within greatestUnits x := by
  rcases exists_units?_of_isFinite finite with ⟨units, counted⟩
  exact ⟨units, counted, natAbs_le_greatestUnits counted⟩

/-- A quotient that does not exceed a held count is rounded within it. -/
theorem within_ofQuotient {bound numerator denominator : Nat} (held : Held bound)
    (positive : 0 < denominator) (below : numerator ≤ bound * denominator) (negative : Bool) :
    Within bound (ofQuotient negative numerator denominator) := by
  rcases held with ⟨magnitude, bounded, rfl⟩
  have nearest := nearestMagnitude_le positive below
  unfold ofQuotient
  rw [dif_pos (Nat.lt_of_le_of_lt nearest bounded), within_finite]
  exact unitsOfMagnitude_mono nearest

/-- A sum is rounded within a held count that the exact sum does not exceed. -/
theorem within_add {bound : Nat} {x y : Binary64} {a b : Int} (left : x.units? = some a)
    (right : y.units? = some b) (held : Held bound) (below : (a + b).natAbs ≤ bound) :
    Within bound (x.add y) := by
  rcases add_eq_ofQuotient left right with ⟨sign, sum⟩
  rw [sum]
  split
  case isTrue => exact within_ofQuotient held Nat.one_pos (Nat.zero_le _) sign
  case isFalse => exact within_ofQuotient held Nat.one_pos (by omega) _

namespace Within

variable {bound leftBound rightBound : Nat} {x y : Binary64}

theorem isFinite (within : Within bound x) : x.isFinite = true := by
  rcases within with ⟨units, counted, _⟩
  cases x with
  | finite negative magnitude => rfl
  | infinite _ => cases counted
  | nan => cases counted

theorem add (left : Within leftBound x) (right : Within rightBound y) (held : Held bound)
    (below : leftBound + rightBound ≤ bound) : Within bound (x.add y) := by
  rcases left with ⟨a, leftUnits, leftSize⟩
  rcases right with ⟨b, rightUnits, rightSize⟩
  exact within_add leftUnits rightUnits held (by omega)

theorem mul (left : Within leftBound x) (right : Within rightBound y) (held : Held bound)
    (below : leftBound * rightBound ≤ bound * unitsPerOne) : Within bound (x.mul y) := by
  cases x with
  | infinite _ => cases left.isFinite
  | nan => cases left.isFinite
  | finite leftNegative leftMagnitude =>
      cases y with
      | infinite _ => cases right.isFinite
      | nan => cases right.isFinite
      | finite rightNegative rightMagnitude =>
          refine within_ofQuotient held unitsPerOne_pos (Nat.le_trans ?_ below) _
          exact Nat.mul_le_mul (within_finite.mp left) (within_finite.mp right)

/-- A finite number times one that is no greater than one is finite. -/
theorem mul_share (left : x.isFinite = true) (right : Within unitsPerOne y) :
    Within greatestUnits (x.mul y) :=
  (within_of_isFinite left).mul right held_greatestUnits (Nat.le_refl _)

end Within

/-- An integer is converted within its size. -/
theorem within_ofInt? {value : Int} {bound : Nat} (short : bound < 2 ^ 53)
    (small : value.natAbs ≤ bound) :
    ∃ x, ofInt? value = some x ∧ Within (bound * unitsPerOne) x := by
  have within : Within (bound * unitsPerOne)
      (ofQuotient (decide (value < 0)) (value.natAbs * unitsPerOne) 1) := by
    refine within_ofQuotient (held_integer short) Nat.one_pos ?_ _
    rw [Nat.mul_one]
    exact Nat.mul_le_mul_right _ small
  refine ⟨_, ?_, within⟩
  exact finite?_eq_some.mpr ⟨rfl, within.isFinite⟩

/-- A decimal of a usual size is rounded within an integer that it does not exceed. -/
theorem within_ofDecimal (coefficient places : Nat) {bound : Nat} (short : bound < 2 ^ 53)
    (few : (Nat.toDigits 10 coefficient).length ≤ 310)
    (below : coefficient ≤ bound * 10 ^ places) :
    Within (bound * unitsPerOne) (ofDecimal false coefficient (-(places : Int))) := by
  have held : Held (bound * unitsPerOne) := held_integer short
  have none : Within (bound * unitsPerOne) (ofQuotient false 0 1) :=
    within_ofQuotient held Nat.one_pos (Nat.zero_le _) false
  have scaled := Nat.mul_le_mul_right unitsPerOne below
  unfold ofDecimal
  dsimp only
  split
  · exact none
  · rw [if_neg (by omega)]
    split
    · exact none
    · split
      case isTrue whole =>
          have nowhere : places = 0 := by omega
          have power : Nat.pow 10 (-((0 : Nat) : Int)).toNat = 1 := rfl
          rw [nowhere, Nat.pow_zero, Nat.mul_one] at scaled
          rw [nowhere, power, Nat.mul_one]
          refine within_ofQuotient held Nat.one_pos ?_ false
          rw [Nat.mul_one]
          exact scaled
      case isFalse =>
          rw [Int.neg_neg, Int.toNat_natCast]
          refine within_ofQuotient held (Nat.pow_pos (by decide)) ?_ false
          rw [Nat.mul_right_comm]
          exact scaled

/-- A decimal share of a whole. -/
theorem within_share (coefficient places : Nat)
    (few : (Nat.toDigits 10 coefficient).length ≤ 310) (below : coefficient ≤ 10 ^ places) :
    Within unitsPerOne (ofDecimal false coefficient (-(places : Int))) := by
  rw [← Nat.one_mul (10 ^ places)] at below
  have within := within_ofDecimal coefficient places (by decide) few below
  rwa [Nat.one_mul] at within

end Binary64

namespace Number

open Binary64

/-! ## Steps of arithmetic -/

/-- A natural number of at most 53 bits is converted within its size. -/
theorem exists_toBinary64_nat (number : Nat) (short : number < 2 ^ 53) :
    ∃ x, (int number).toBinary64 = .ok x ∧ Within (number * unitsPerOne) x := by
  rcases within_ofInt? short (Nat.le_of_eq (Int.natAbs_natCast number)) with
    ⟨x, converted, within⟩
  exact ⟨x, toBinary64_int.mpr converted, within⟩

/-- A product with a binary64 number is one, as soon as the other factor is converted. -/
theorem mul_float {x : Number} {a : Binary64} (converted : x.toBinary64 = .ok a)
    (b : Binary64) : x.mul (float b) = .ok (float (a.mul b)) := by
  cases x with
  | int value => exact Outcome.bind_ok.mpr ⟨a, converted, rfl⟩
  | float y =>
      rw [← Except.ok.inj converted]
      rfl

/-- A product of a binary64 number is one, as soon as the other factor is converted. -/
theorem float_mul (x : Binary64) {y : Number} {b : Binary64} (converted : y.toBinary64 = .ok b) :
    (float x).mul y = .ok (float (x.mul b)) := by
  cases y with
  | int value => exact Outcome.bind_ok.mpr ⟨x, rfl, Outcome.bind_ok.mpr ⟨b, converted, rfl⟩⟩
  | float z =>
      rw [← Except.ok.inj converted]
      rfl

/-- A binary64 number can be divided by a number that is converted. -/
theorem float_div (x : Binary64) {y : Number} {b : Binary64} (converted : y.toBinary64 = .ok b) :
    (float x).div y = .ok (float (x.div b)) := by
  cases y with
  | int value => exact Outcome.bind_ok.mpr ⟨x, rfl, Outcome.bind_ok.mpr ⟨b, converted, rfl⟩⟩
  | float z =>
      rw [← Except.ok.inj converted]
      rfl

/-- An integer over a positive one is finite, when its quotient is within the format. -/
theorem exists_div_int {value : Int} {divisor bound : Nat} (positive : 0 < divisor)
    (held : Held bound) (below : value.natAbs * unitsPerOne ≤ bound * divisor) :
    ∃ x, (int value).div (int divisor) = .ok (float x) ∧ Within bound x := by
  have within := within_ofQuotient held positive below
    (decide (value < 0) != decide ((divisor : Int) < 0))
  exact ⟨_, div_int rfl rfl rfl within.isFinite, within⟩

/-- A number over a positive integer is a binary64 number, unless it is a huge integer. -/
theorem exists_div {x : Number} {divisor : Nat} (positive : 0 < divisor) (short : divisor < 2 ^ 53)
    (fits : ∀ whole, x = int whole → whole.natAbs * unitsPerOne ≤ greatestUnits * divisor) :
    ∃ quotient, x.div (int divisor) = .ok (float quotient) := by
  cases x with
  | int whole =>
      rcases exists_div_int positive held_greatestUnits (fits whole rfl) with
        ⟨quotient, divided, _⟩
      exact ⟨quotient, divided⟩
  | float x =>
      rcases exists_toBinary64_nat divisor short with ⟨b, converted, _⟩
      exact ⟨_, float_div x converted⟩

/-! ## Quotients of integers and of their conversions -/

end Number

namespace Binary64

/-- A factor of both terms of a quotient does not change it. -/
theorem ofQuotient_mul_mul (negative : Bool) (numerator denominator : Nat) {factor : Nat}
    (positive : 0 < factor) :
    ofQuotient negative (numerator * factor) (denominator * factor) =
      ofQuotient negative numerator denominator := by
  have same : nearestMagnitude (numerator * factor) (denominator * factor) =
      nearestMagnitude numerator denominator := by
    unfold nearestMagnitude
    dsimp only
    rw [Nat.mul_div_mul_right _ _ positive, Nat.mul_right_comm,
      Rounding.nearestEven_mul_mul _ _ positive]
  unfold ofQuotient
  simp only [same]

/-- A sign and a count of units that make up an integer have its size, and its sign. -/
theorem size_of_units {negative : Bool} {size one : Nat} {value : Int} (positive : 0 < one)
    (units : (if negative then -(size : Int) else size) = value * one) :
    size = value.natAbs * one ∧
      (if negative then -(value.natAbs : Int) else value.natAbs) = value := by
  have whole : size = value.natAbs * one := by
    have sizes := congrArg Int.natAbs units
    rw [Int.natAbs_mul, Int.natAbs_natCast] at sizes
    rw [← sizes]
    cases negative <;> simp
  refine ⟨whole, Int.eq_of_mul_eq_mul_right (Int.natCast_ne_zero.mpr (Nat.ne_of_gt positive)) ?_⟩
  rw [← units, whole, Int.natCast_mul]
  cases negative
  · rfl
  · exact Int.neg_mul _ _

/-- A finite number with the units of an integer other than zero has its sign and its size. -/
theorem exists_finite_of_units {x : Binary64} {value : Int} {one : Nat} (positive : 0 < one)
    (counted : x.units? = some (value * one)) (nonzero : value ≠ 0) :
    ∃ magnitude, x = finite (decide (value < 0)) magnitude ∧
      unitsOfMagnitude magnitude.val = value.natAbs * one := by
  cases x with
  | infinite _ => cases counted
  | nan => cases counted
  | finite negative magnitude =>
      rcases size_of_units positive (Option.some.inj counted) with ⟨size, signed⟩
      refine ⟨magnitude, congrArg (finite · magnitude) ?_, size⟩
      cases negative with
      | true =>
          rw [if_pos rfl] at signed
          exact (decide_eq_true (by omega)).symm
      | false =>
          rw [if_neg Bool.false_ne_true] at signed
          exact (decide_eq_false (by omega)).symm

/-- The quotient of finite numbers is that of their units. -/
theorem div_finite (left right : Bool) (a b : Fin magnitudeCount) (nonzero : b.val ≠ 0) :
    (finite left a).div (finite right b) =
      ofQuotient (left != right) (unitsOfMagnitude a.val * unitsPerOne)
        (unitsOfMagnitude b.val) := by
  simp only [div, if_neg nonzero]

end Binary64

namespace Number

open Binary64

/-- An integer's conversion is divided as the integer is. -/
theorem div_ofInt? {value : Int} {divisor : Nat} {x : Binary64}
    (converted : ofInt? value = some x) (short : value.natAbs < 2 ^ 53) (nonzero : value ≠ 0)
    (positive : 0 < divisor) (narrow : divisor < 2 ^ 53)
    (fits : value.natAbs * unitsPerOne ≤ greatestUnits * divisor) :
    ∃ y, (int value).div (int divisor) = .ok (float y) ∧
      (float x).div (int divisor) = .ok (float y) := by
  have one := unitsPerOne_pos
  have counted : (divisor : Int).natAbs < 2 ^ 53 := by omega
  rcases ofInt?_exact short with ⟨_, same, xUnits⟩
  cases Option.some.inj (same.symm.trans converted)
  rcases ofInt?_exact counted with ⟨b, convertedDivisor, bUnits⟩
  rcases exists_finite_of_units one xUnits nonzero with ⟨magnitude, rfl, size⟩
  rcases exists_finite_of_units one bUnits (by omega) with ⟨bMagnitude, rfl, bSize⟩
  rw [Int.natAbs_natCast] at bSize
  have notZero : bMagnitude.val ≠ 0 := by
    intro zero
    rw [zero] at bSize
    have none : unitsOfMagnitude 0 = 0 := by decide
    rw [none] at bSize
    exact absurd bSize.symm (Nat.ne_of_gt (Nat.mul_pos positive one))
  have within := within_ofQuotient held_greatestUnits positive fits
    (decide (value < 0) != decide ((divisor : Int) < 0))
  refine ⟨_, div_int rfl rfl rfl within.isFinite, ?_⟩
  rw [float_div _ (toBinary64_int.mpr convertedDivisor), div_finite _ _ _ _ notZero, size, bSize,
    ofQuotient_mul_mul _ _ _ one, Int.natAbs_natCast]

/-! ## Integers from bounded numbers -/

/-- The integer below a quotient does not exceed an integer that the quotient does not. -/
theorem natAbs_fdiv_le {units : Int} {one bound : Nat} (positive : 0 < one)
    (below : units.natAbs ≤ bound * one) : (Int.fdiv units one).natAbs ≤ bound := by
  have upper : units ≤ (bound : Int) * one := by
    rw [← Int.natCast_mul]
    omega
  have lower : -(bound : Int) * one ≤ units := by
    rw [Int.neg_mul, ← Int.natCast_mul]
    omega
  have above := Int.ediv_le_of_le_mul (by omega) upper
  have under := Int.le_ediv_of_mul_le (by omega) lower
  rw [Int.fdiv_eq_ediv_of_nonneg _ (by omega)]
  omega

/-- A number of moderate size is rounded half up to an integer of about its size. -/
theorem exists_roundHalfUp {x : Binary64} {bound : Nat} (short : bound < 2 ^ 51)
    (within : Within (bound * unitsPerOne) x) :
    ∃ rounded, roundHalfUp (float x) = .ok rounded ∧ rounded.natAbs ≤ bound + 1 := by
  have halves : bound * unitsPerOne + unitsPerHalf = (2 * bound + 1) * unitsPerHalf := by
    rw [unitsPerOne_eq, ← Nat.mul_assoc, Nat.mul_comm bound, Nat.add_mul, Nat.one_mul]
  have halfWithin : Within unitsPerHalf half :=
    ⟨unitsPerHalf, units?_half, Nat.le_of_eq (Int.natAbs_natCast _)⟩
  have held : Held ((2 * bound + 1) * unitsPerHalf) := held_half (by omega)
  rcases within.add halfWithin held (Nat.le_of_eq halves) with ⟨units, counted, bounded⟩
  refine ⟨Int.fdiv units unitsPerOne, ?_, ?_⟩
  · change floorInteger (x.add half) = _
    unfold floorInteger Binary64.floor?
    rw [counted]
    rfl
  · have small : (2 * bound + 1) * unitsPerHalf ≤ (bound + 1) * unitsPerOne := by
      rw [unitsPerOne_eq, ← Nat.mul_assoc]
      exact Nat.mul_le_mul_right _ (by omega)
    exact natAbs_fdiv_le unitsPerOne_pos (Nat.le_trans bounded small)

/-- A product of moderate numbers is rounded half up to an integer of about its size. -/
theorem exists_roundedProduct {value : Int} {x : Binary64} {bound factor : Nat}
    (small : value.natAbs ≤ bound) (within : Within (factor * unitsPerOne) x)
    (short : bound < 2 ^ 53) (narrow : bound * factor < 2 ^ 51) :
    ∃ product rounded, (int value).mul (float x) = .ok product ∧
      roundHalfUp product = .ok rounded ∧ rounded.natAbs ≤ bound * factor + 1 := by
  have held : Held (bound * factor * unitsPerOne) := held_integer (by omega)
  have sizes : bound * unitsPerOne * (factor * unitsPerOne) =
      bound * factor * unitsPerOne * unitsPerOne := by
    rw [Nat.mul_mul_mul_comm, ← Nat.mul_assoc]
  rcases within_ofInt? short small with ⟨whole, converted, bounded⟩
  rcases exists_roundHalfUp narrow (bounded.mul within held (Nat.le_of_eq sizes)) with
    ⟨rounded, made, near⟩
  exact ⟨_, rounded, mul_float (toBinary64_int.mpr converted) x, made, near⟩

/-! ## Finite numbers -/

/-- A number that is finite in binary64 is converted to a finite number. -/
theorem exists_finite {x : Number} (finite : x.isFinite = .ok true) :
    ∃ value, x.toBinary64 = .ok value ∧ value.isFinite = true := by
  rcases Outcome.bind_ok.mp finite with ⟨value, converted, rest⟩
  exact ⟨value, converted, Outcome.pure_ok.mp rest⟩

theorem isFinite_int {whole : Int} (small : whole.natAbs < integerLimit) :
    (int whole).isFinite = .ok true := by
  rcases toBinary64_int_of_lt small with ⟨value, converted⟩
  refine Outcome.bind_ok.mpr ⟨value, converted, ?_⟩
  have kept := toBinary64_int.mp converted
  unfold ofInt? at kept
  rcases finite?_eq_some.mp kept with ⟨same, finite⟩
  rw [same] at finite
  exact congrArg Except.ok finite

theorem natAbs_lt_of_isFinite {whole : Int} (finite : (int whole).isFinite = .ok true) :
    whole.natAbs < integerLimit := by
  rcases exists_finite finite with ⟨value, converted, _⟩
  apply Nat.lt_of_not_le
  intro large
  rw [toBinary64_int_of_le large] at converted
  cases converted

/-- A finite number can be rounded half up, whatever its kind. -/
theorem exists_roundHalfUp_of_isFinite {x : Number} (finite : x.isFinite = .ok true) :
    ∃ rounded, roundHalfUp x = .ok rounded := by
  rcases exists_finite finite with ⟨value, converted, finite⟩
  rcases roundHalfUp_float finite with ⟨rounded, made⟩
  exact ⟨rounded, Outcome.bind_ok.mpr ⟨value, converted, made⟩⟩

/-- A share of a finite number can be rounded half up. -/
theorem exists_share {x : Number} (finite : x.isFinite = .ok true) {share : Binary64}
    (small : Within unitsPerOne share) :
    ∃ product rounded, x.mul (float share) = .ok product ∧ roundHalfUp product = .ok rounded := by
  rcases exists_finite finite with ⟨value, converted, finite⟩
  rcases roundHalfUp_float (Within.mul_share finite small).isFinite with ⟨rounded, made⟩
  exact ⟨_, rounded, mul_float converted share, made⟩

end Number

end TestSignal
