import Mathlib.Tactic.Linarith
import TestSignal.Proofs.Number.Finite
import TestSignal.Proofs.Number.Zero

namespace TestSignal

/-!
# How near a rounded number is

A result is rounded to a nearest magnitude, so it is off by at most half of the spacing of the
magnitudes there.  The spacing grows with the size: below `2 ^ n` a result is off by at most
`2 ^ n / 2 ^ 54`.  Everything is said about exact values, which are rational.

From this it follows how near a product, a sum and a quotient are to the exact ones, and how near
a number is to the integer and to the decimals that it is rounded to.
-/

/-! ## Quotients of natural numbers -/

namespace Rounding

/-- A rounded quotient is off by at most one half. -/
theorem nearestEven_near (numerator : Nat) {denominator : Nat} (positive : 0 < denominator) :
    2 * (nearestEven numerator denominator * denominator) ≤ 2 * numerator + denominator ∧
      2 * numerator ≤ 2 * (nearestEven numerator denominator * denominator) + denominator := by
  have split := Nat.div_add_mod numerator denominator
  have small := Nat.mod_lt numerator positive
  unfold nearestEven
  generalize numerator / denominator = quotient at split ⊢
  generalize numerator % denominator = remainder at split small ⊢
  rw [Nat.mul_comm] at split
  have next : (quotient + 1) * denominator = quotient * denominator + denominator :=
    Nat.succ_mul quotient denominator
  dsimp only
  split
  · omega
  · split
    · omega
    · rcases Nat.mod_two_eq_zero_or_one quotient with even | odd
      · rw [even, Nat.add_zero]
        omega
      · rw [odd]
        omega

theorem abs_nearestEven_sub_le (numerator : Nat) {denominator : Nat} (positive : 0 < denominator) :
    |(nearestEven numerator denominator : ℚ) - numerator / denominator| ≤ 1 / 2 := by
  have divides : (0 : ℚ) < denominator := Nat.cast_pos.mpr positive
  have near := nearestEven_near numerator positive
  generalize nearestEven numerator denominator = rounded at near ⊢
  have above : (2 : ℚ) * (rounded * denominator) ≤ 2 * numerator + denominator := by
    exact_mod_cast near.1
  have below : (2 : ℚ) * numerator ≤ 2 * (rounded * denominator) + denominator := by
    exact_mod_cast near.2
  rw [abs_le, neg_le_sub_iff_le_add, sub_le_iff_le_add, div_le_iff₀ divides,
    ← sub_le_iff_le_add', le_div_iff₀ divides]
  constructor <;> linarith

/-- A quotient rounded to decimal places is off by at most half of the last one. -/
theorem abs_nearestEven_div_sub_le (numerator : Nat) {denominator : Nat}
    (positive : 0 < denominator) (places : Nat) :
    |(nearestEven (numerator * Nat.pow 10 places) denominator : ℚ) / 10 ^ places -
      numerator / denominator| ≤ 1 / 2 / 10 ^ places := by
  have power : (0 : ℚ) < 10 ^ places := by positivity
  have near := abs_nearestEven_sub_le (numerator * Nat.pow 10 places) positive
  have scaled : (numerator : ℚ) / denominator =
      (numerator * Nat.pow 10 places : Nat) / denominator / 10 ^ places := by
    rw [Nat.cast_mul, Nat.pow_eq, Nat.cast_pow, Nat.cast_ofNat, mul_div_right_comm,
      mul_div_cancel_right₀ _ power.ne']
  rw [scaled, ← sub_div, abs_div, abs_of_pos power]
  exact div_le_div_of_nonneg_right near power.le

end Rounding

namespace Binary64

/-! ## Magnitudes -/

/-- A significand with a spacing is the units of the magnitude that rounding gives it. -/
theorem unitsOfMagnitude_significand (significand spacing : Nat)
    (short : significand ≤ 2 ^ 53) (full : spacing = 0 ∨ 2 ^ 52 ≤ significand) :
    unitsOfMagnitude (significand + spacing * magnitudesPerBlock) = significand * 2 ^ spacing := by
  have block : magnitudesPerBlock = 2 ^ 52 := rfl
  rcases Nat.lt_or_ge significand magnitudesPerBlock with low | high
  · rcases full with none | full
    · rw [none, Nat.zero_mul, Nat.add_zero, unitsOfMagnitude_low low, Nat.pow_zero, Nat.mul_one]
    · exact absurd full (Nat.not_le.mpr low)
  · rcases Nat.lt_or_eq_of_le short with shorter | greatest
    · have fraction : significand - magnitudesPerBlock < magnitudesPerBlock := by omega
      have placed := unitsOfMagnitude_block fraction spacing
      rwa [Nat.add_sub_cancel' high, Nat.succ_mul, Nat.add_comm (spacing * _), ← Nat.add_assoc,
        Nat.sub_add_cancel high] at placed
    · -- The significand that is rounded up to a power of two begins the next block.
      have placed := unitsOfMagnitude_block (show 0 < magnitudesPerBlock by decide) (spacing + 1)
      have begins : 0 + (spacing + 1 + 1) * magnitudesPerBlock =
          2 ^ 53 + spacing * magnitudesPerBlock := by
        rw [block]
        omega
      rw [greatest, ← begins, placed, block, Nat.pow_succ]
      omega

/-- The nearest magnitude is off by at most half of a spacing that the quotient has bits for. -/
theorem abs_nearestMagnitude_sub_le {numerator denominator spacing : Nat}
    (positive : 0 < denominator) (short : numerator < 2 ^ (53 + spacing) * denominator) :
    |(unitsOfMagnitude (nearestMagnitude numerator denominator) : ℚ) - numerator / denominator| ≤
      2 ^ spacing / 2 := by
  let width := (numerator / denominator).log2 - 52
  let significand := Rounding.nearestEven numerator (denominator * 2 ^ width)
  have narrow : width ≤ spacing :=
    log2_sub_le ((Nat.div_lt_iff_lt_mul positive).mpr short)
  have full : width = 0 ∨ 2 ^ 52 ≤ significand := by
    rcases Nat.eq_zero_or_pos width with none | some
    · exact .inl none
    · exact .inr (le_nearestEven_of_log2 numerator positive (by omega))
  have placed : unitsOfMagnitude (nearestMagnitude numerator denominator) =
      significand * 2 ^ width :=
    unitsOfMagnitude_significand significand width (nearestEven_le_of_log2 numerator positive) full
  have rounded := Rounding.abs_nearestEven_sub_le numerator
    (Nat.mul_pos positive (Nat.two_pow_pos width))
  have power : (0 : ℚ) < 2 ^ width := by positivity
  have scaled : ((significand * 2 ^ width : Nat) : ℚ) - numerator / denominator =
      2 ^ width * ((significand : ℚ) - numerator / (denominator * 2 ^ width : Nat)) := by
    have divides : (denominator : ℚ) ≠ 0 := Nat.cast_ne_zero.mpr (Nat.ne_of_gt positive)
    push_cast
    field_simp
  calc |(unitsOfMagnitude (nearestMagnitude numerator denominator) : ℚ) -
        numerator / denominator|
      = 2 ^ width * |(significand : ℚ) - numerator / (denominator * 2 ^ width : Nat)| := by
        rw [placed, scaled, abs_mul, abs_of_pos power]
    _ ≤ 2 ^ width * (1 / 2) := mul_le_mul_of_nonneg_left rounded power.le
    _ ≤ 2 ^ spacing * (1 / 2) :=
        mul_le_mul_of_nonneg_right (pow_le_pow_right₀ (by norm_num) narrow) (by norm_num)
    _ = 2 ^ spacing / 2 := by rw [mul_one_div]

/-! ## Exact values -/

/-- The value of a finite number. -/
def value? (x : Binary64) : Option ℚ := x.units?.map fun units : Int => (units : ℚ) / unitsPerOne

/-- A size with a sign. -/
def signed (negative : Bool) (size : ℚ) : ℚ := if negative then -size else size

@[simp] theorem signed_true (size : ℚ) : signed true size = -size := rfl

@[simp] theorem signed_false (size : ℚ) : signed false size = size := rfl

@[simp] theorem signed_zero (negative : Bool) : signed negative 0 = 0 := by
  cases negative
  · rfl
  · exact neg_zero

theorem abs_signed (negative : Bool) (size : ℚ) : |signed negative size| = |size| := by
  cases negative
  · rfl
  · exact abs_neg size

theorem signed_mul_signed (left right : Bool) (a b : ℚ) :
    signed left a * signed right b = signed (left != right) (a * b) := by
  cases left <;> cases right <;> simp [signed]

theorem signed_sub_signed (negative : Bool) (a b : ℚ) :
    |signed negative a - signed negative b| = |a - b| := by
  cases negative
  · rfl
  · rw [signed_true, signed_true, neg_sub_neg, abs_sub_comm]

theorem signed_div (negative : Bool) (a b : ℚ) :
    signed negative (a / b) = signed negative a / b := by
  cases negative
  · rfl
  · exact (neg_div b a).symm

/-- The sign and the size of an integer make up its value. -/
theorem signed_natAbs (value : Int) :
    signed (decide (value < 0)) value.natAbs = (value : ℚ) := by
  rw [Nat.cast_natAbs, Int.cast_abs]
  by_cases negative : value < 0
  · rw [decide_eq_true negative, signed_true, abs_of_neg (Int.cast_lt_zero.mpr negative), neg_neg]
  · rw [decide_eq_false negative, signed_false,
      abs_of_nonneg (Int.cast_nonneg (Int.not_lt.mp negative))]

theorem value?_of_units {x : Binary64} {units : Int} (counted : x.units? = some units) :
    x.value? = some (units / unitsPerOne : ℚ) := by
  unfold value?
  rw [counted]
  rfl

theorem value?_finite (negative : Bool) (magnitude : Fin magnitudeCount) :
    (finite negative magnitude).value? =
      some (signed negative (unitsOfMagnitude magnitude.val / unitsPerOne)) := by
  rw [value?_of_units rfl]
  cases negative
  · rfl
  · rw [if_pos rfl, Int.cast_neg, neg_div]
    rfl

theorem isFinite_of_value? {x : Binary64} {a : ℚ} (valued : x.value? = some a) :
    x.isFinite = true := by
  cases x with
  | finite negative magnitude => rfl
  | infinite _ => cases valued
  | nan => cases valued

/-- A number with a value has its units. -/
theorem exists_units?_of_value? {x : Binary64} {a : ℚ} (valued : x.value? = some a) :
    ∃ units, x.units? = some units ∧ (units : ℚ) = a * unitsPerOne := by
  rcases Option.map_eq_some_iff.mp valued with ⟨units, counted, rfl⟩
  have one : (unitsPerOne : ℚ) ≠ 0 := Nat.cast_ne_zero.mpr (Nat.ne_of_gt unitsPerOne_pos)
  exact ⟨units, counted, (div_mul_cancel₀ _ one).symm⟩

/-! ## Rounded results -/

/-- Measured in a power of two, a magnitude is as near as the bits of the quotient allow. -/
theorem abs_div_sub_le {numerator denominator bits one next width : Nat}
    (unit : one = Nat.pow 2 next) (follows : next = width + 54) (positive : 0 < denominator)
    (small : numerator < 2 ^ bits * one * denominator) :
    |(unitsOfMagnitude (nearestMagnitude numerator denominator) : ℚ) / one -
      numerator / denominator / one| ≤ 2 ^ bits / 2 ^ 54 := by
  have split : (one : ℚ) = 2 ^ 54 * 2 ^ width := by
    rw [unit, follows, Nat.pow_eq, Nat.cast_pow, Nat.cast_ofNat, pow_add, mul_comm]
  have units : (0 : ℚ) < one := by
    rw [split]
    positivity
  have short : numerator < 2 ^ (53 + (bits + 1 + width)) * denominator := by
    have bound : 2 ^ (53 + (bits + 1 + width)) = 2 ^ bits * one := by
      rw [unit, follows, Nat.pow_eq, ← Nat.pow_add]
      congr 1
      omega
    rw [bound]
    exact small
  have near := abs_nearestMagnitude_sub_le positive short
  rw [← sub_div, abs_div, abs_of_pos units, div_le_iff₀ units]
  refine near.trans (le_of_eq ?_)
  rw [split, pow_add, pow_succ]
  have power : (2 : ℚ) ^ 54 ≠ 0 := by positivity
  field_simp

/-- A quotient below a moderate power of two is rounded to a number near it. -/
theorem exists_ofQuotient_near (negative : Bool) {numerator denominator bits : Nat}
    (positive : 0 < denominator) (small : numerator < 2 ^ bits * unitsPerOne * denominator)
    (room : bits ≤ 900) :
    ∃ magnitude, ofQuotient negative numerator denominator = finite negative magnitude ∧
      |(unitsOfMagnitude magnitude.val : ℚ) / unitsPerOne -
        numerator / denominator / unitsPerOne| ≤ 2 ^ bits / 2 ^ 54 := by
  have within := within_ofQuotient (held_two_pow room) positive (Nat.le_of_lt small) negative
  cases made : ofQuotient negative numerator denominator with
  | finite sign magnitude =>
      rcases eq_of_ofQuotient made with ⟨rfl, nearest⟩
      refine ⟨magnitude, rfl, ?_⟩
      rw [nearest]
      exact abs_div_sub_le unitsPerOne_eq_pow (show 1074 = 1020 + 54 from rfl) positive small
  | infinite _ =>
      rw [made] at within
      exact absurd within.isFinite Bool.false_ne_true
  | nan =>
      rw [made] at within
      exact absurd within.isFinite Bool.false_ne_true

/-- Its value is near the quotient with the sign. -/
theorem exists_value?_ofQuotient (negative : Bool) {numerator denominator bits : Nat}
    (positive : 0 < denominator) (small : numerator < 2 ^ bits * unitsPerOne * denominator)
    (room : bits ≤ 900) :
    ∃ c, (ofQuotient negative numerator denominator).value? = some c ∧
      |c - signed negative (numerator / denominator / unitsPerOne)| ≤ 2 ^ bits / 2 ^ 54 := by
  rcases exists_ofQuotient_near negative positive small room with ⟨magnitude, made, near⟩
  refine ⟨_, made ▸ value?_finite negative magnitude, ?_⟩
  rw [signed_sub_signed]
  exact near

/-- A product is near the exact one. -/
theorem exists_value?_mul {x y : Binary64} {a b : ℚ} {bits : Nat} (left : x.value? = some a)
    (right : y.value? = some b) (small : |a * b| < 2 ^ bits) (room : bits ≤ 900) :
    ∃ c, (x.mul y).value? = some c ∧ |c - a * b| ≤ 2 ^ bits / 2 ^ 54 := by
  cases x with
  | infinite _ => cases left
  | nan => cases left
  | finite xNegative xMagnitude =>
      cases y with
      | infinite _ => cases right
      | nan => cases right
      | finite yNegative yMagnitude =>
          rw [value?_finite] at left right
          have one : (0 : ℚ) < unitsPerOne := Nat.cast_pos.mpr unitsPerOne_pos
          let size : Nat :=
            unitsOfMagnitude xMagnitude.val * unitsOfMagnitude yMagnitude.val
          have exact : a * b = signed (xNegative != yNegative)
              ((size : ℚ) / unitsPerOne / unitsPerOne) := by
            rw [← Option.some.inj left, ← Option.some.inj right, signed_mul_signed,
              div_mul_div_comm, Nat.cast_mul, div_div]
          rw [exact, abs_signed, abs_of_nonneg (div_nonneg (div_nonneg (Nat.cast_nonneg _)
            one.le) one.le), div_lt_iff₀ one, div_lt_iff₀ one] at small
          rw [exact]
          exact exists_value?_ofQuotient (xNegative != yNegative) unitsPerOne_pos
            (by exact_mod_cast small) room

/-- A sum of finite numbers is the rounded size of the exact one, with its sign. -/
theorem exists_add_eq {x y : Binary64} {a b : Int} (left : x.units? = some a)
    (right : y.units? = some b) :
    ∃ negative, x.add y = ofQuotient negative (a + b).natAbs 1 ∧
      signed negative (a + b).natAbs = ((a + b : Int) : ℚ) := by
  rcases add_eq_ofQuotient left right with ⟨sign, added⟩
  by_cases zero : a + b = 0
  · refine ⟨sign, ?_, ?_⟩
    · rw [added, if_pos zero, zero]
      rfl
    · rw [zero]
      cases sign <;> simp
  · refine ⟨decide (a + b < 0), ?_, ?_⟩
    · rw [added, if_neg zero]
    · exact signed_natAbs (a + b)

/-- A sum is near the exact one. -/
theorem exists_value?_add {x y : Binary64} {a b : ℚ} {bits : Nat} (left : x.value? = some a)
    (right : y.value? = some b) (small : |a + b| < 2 ^ bits) (room : bits ≤ 900) :
    ∃ c, (x.add y).value? = some c ∧ |c - (a + b)| ≤ 2 ^ bits / 2 ^ 54 := by
  rcases exists_units?_of_value? left with ⟨xUnits, xCounted, xSame⟩
  rcases exists_units?_of_value? right with ⟨yUnits, yCounted, ySame⟩
  rcases exists_add_eq xCounted yCounted with ⟨negative, added, signs⟩
  have one : (0 : ℚ) < unitsPerOne := Nat.cast_pos.mpr unitsPerOne_pos
  let size : Nat := (xUnits + yUnits).natAbs
  have exact : a + b = signed negative (size / ((1 : Nat) : ℚ) / unitsPerOne) := by
    have scaled : signed negative (size / unitsPerOne) = signed negative size / unitsPerOne := by
      cases negative
      · rfl
      · exact (neg_div _ _).symm
    rw [Nat.cast_one, div_one, scaled, signs, Int.cast_add, xSame, ySame, ← add_mul,
      mul_div_cancel_right₀ _ one.ne']
  have bounded : size < 2 ^ bits * unitsPerOne * 1 := by
    rw [exact, abs_signed, Nat.cast_one, div_one, abs_of_nonneg (div_nonneg (Nat.cast_nonneg _)
      one.le), div_lt_iff₀ one] at small
    rw [Nat.mul_one]
    exact_mod_cast small
  rw [exact, added]
  exact exists_value?_ofQuotient negative Nat.one_pos bounded room

/-! ## Decimal places -/

/-- A number with fixed places is off by at most half of the last one. -/
theorem exists_toFixed?_near (negative : Bool) (magnitude : Fin magnitudeCount) (places : Nat) :
    ∃ units, (finite negative magnitude).toFixed? places = some { negative, units, places } ∧
      |(units : ℚ) / 10 ^ places - unitsOfMagnitude magnitude.val / unitsPerOne| ≤
        1 / 2 / 10 ^ places := by
  refine ⟨_, rfl, ?_⟩
  exact Rounding.abs_nearestEven_div_sub_le _ unitsPerOne_pos places

/-- Rounding to places goes to a near decimal, and from there to the nearest number. -/
theorem exists_roundPlaces_near (negative : Bool) (magnitude : Fin magnitudeCount)
    (places bits : Nat)
    (small : (unitsOfMagnitude magnitude.val : ℚ) / unitsPerOne + 1 < 2 ^ bits)
    (room : bits ≤ 900) :
    ∃ scaled : Nat, ∃ rounded,
      (finite negative magnitude).roundPlaces places = finite negative rounded ∧
      |(scaled : ℚ) / 10 ^ places - unitsOfMagnitude magnitude.val / unitsPerOne| ≤
        1 / 2 / 10 ^ places ∧
      |(unitsOfMagnitude rounded.val : ℚ) / unitsPerOne - scaled / 10 ^ places| ≤
        2 ^ bits / 2 ^ 54 ∧
      (scaled = 0 → unitsOfMagnitude rounded.val = 0) := by
  let scaled :=
    Rounding.nearestEven (unitsOfMagnitude magnitude.val * Nat.pow 10 places) unitsPerOne
  have one : (unitsPerOne : ℚ) ≠ 0 := Nat.cast_ne_zero.mpr (Nat.ne_of_gt unitsPerOne_pos)
  have power : (1 : ℚ) ≤ 10 ^ places := one_le_pow₀ (by norm_num)
  have near := Rounding.abs_nearestEven_div_sub_le (unitsOfMagnitude magnitude.val)
    unitsPerOne_pos places
  have below : (scaled : ℚ) < 2 ^ bits * 10 ^ places := by
    have last : (1 : ℚ) / 2 / 10 ^ places ≤ 1 := by
      rw [div_le_one (by positivity)]
      linarith
    rw [← div_lt_iff₀ (by positivity)]
    linarith [(abs_le.mp near).2]
  have bounded : scaled * unitsPerOne < 2 ^ bits * unitsPerOne * Nat.pow 10 places := by
    rw [Nat.mul_right_comm]
    exact Nat.mul_lt_mul_of_pos_right (by exact_mod_cast below) unitsPerOne_pos
  rcases exists_ofQuotient_near negative (Nat.pow_pos (by decide)) bounded room with
    ⟨rounded, made, off⟩
  rw [Nat.cast_mul, mul_div_right_comm, mul_div_cancel_right₀ _ one, Nat.cast_pow,
    Nat.cast_ofNat] at off
  refine ⟨scaled, rounded, made, near, off, fun none => ?_⟩
  have nearest := (eq_of_ofQuotient made).2
  have least : rounded.val ≤ 0 := by
    rw [nearest, none, Nat.zero_mul]
    exact nearestMagnitude_le (Nat.pow_pos (by decide)) (Nat.zero_le _)
  rw [Nat.le_zero.mp least]
  decide

end Binary64

namespace Number

open Binary64

/-- A quotient of integers is near the exact one, and has its sign. -/
theorem exists_div_int_near (value : Int) {divisor : Nat} (bits : Nat) (positive : 0 < divisor)
    (small : value.natAbs < 2 ^ bits * divisor) (room : bits ≤ 900) :
    ∃ magnitude, (int value).div (int divisor) =
        .ok (float (finite (decide (value < 0)) magnitude)) ∧
      |(unitsOfMagnitude magnitude.val : ℚ) / unitsPerOne - value.natAbs / divisor| ≤
        2 ^ bits / 2 ^ 54 := by
  have one : (unitsPerOne : ℚ) ≠ 0 := Nat.cast_ne_zero.mpr (Nat.ne_of_gt unitsPerOne_pos)
  have bounded : value.natAbs * unitsPerOne < 2 ^ bits * unitsPerOne * divisor := by
    rw [Nat.mul_right_comm]
    exact Nat.mul_lt_mul_of_pos_right small unitsPerOne_pos
  have sign : (decide (value < 0) != decide ((divisor : Int) < 0)) = decide (value < 0) := by
    rw [decide_eq_false (show ¬(divisor : Int) < 0 by omega), Bool.bne_false]
  rcases exists_ofQuotient_near (decide (value < 0)) positive bounded room with
    ⟨magnitude, made, near⟩
  refine ⟨magnitude, div_int rfl rfl ?_ rfl, ?_⟩
  · rw [sign, Int.natAbs_natCast, made]
  · rw [Nat.cast_mul, mul_div_right_comm, mul_div_cancel_right₀ _ one] at near
    exact near

theorem value?_half : half.value? = some (1 / 2 : ℚ) := by
  have some : (unitsPerHalf : ℚ) ≠ 0 := Nat.cast_ne_zero.mpr (Nat.ne_of_gt unitsPerHalf_pos)
  rw [value?_of_units units?_half, unitsPerOne_eq, Nat.cast_mul, Int.cast_natCast,
    Nat.cast_ofNat, div_mul_cancel_right₀ some, one_div]

/-- The integer below a number with a value. -/
theorem floorInteger_of_value? {x : Binary64} {a : ℚ} (valued : x.value? = some a) :
    floorInteger x = .ok ⌊a⌋ := by
  rcases exists_units?_of_value? valued with ⟨units, counted, _⟩
  rw [value?_of_units counted] at valued
  unfold floorInteger floor?
  rw [counted, Option.map_some, ← Option.some.inj valued, Rat.floor_intCast_div_natCast,
    Int.fdiv_eq_ediv_of_nonneg _ (Int.natCast_nonneg _)]

/-- Rounding half up is off by little more than one half. -/
theorem exists_roundHalfUp_near {x : Binary64} {a : ℚ} {bits : Nat} (valued : x.value? = some a)
    (small : |a + 1 / 2| < 2 ^ bits) (room : bits ≤ 900) :
    ∃ rounded : Int, roundHalfUp (float x) = .ok rounded ∧
      |(rounded : ℚ) - a| ≤ 1 / 2 + 2 ^ bits / 2 ^ 54 := by
  rcases exists_value?_add valued value?_half small room with ⟨c, raised, near⟩
  refine ⟨⌊c⌋, floorInteger_of_value? raised, ?_⟩
  have below := Int.floor_le c
  have above := Int.lt_floor_add_one c
  rw [abs_le] at near ⊢
  constructor <;> linarith

end Number

end TestSignal
