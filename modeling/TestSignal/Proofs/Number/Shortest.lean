import Mathlib.Algebra.Order.Field.Basic
import Mathlib.Tactic.FieldSimp
import Mathlib.Tactic.Ring
import TestSignal.Number.Written
import TestSignal.Proofs.Number.Nearness

namespace TestSignal

/-!
# The shortest decimal is found, and is near

The search for the shortest decimal of a number looks at the two neighbours of the number on
finer and finer grids, and takes the first that rounds to the number.  The quotients that round
to it make an interval around it.  When neither neighbour is in the interval, the interval is no
wider than the step of the grid.  But with seventeen digits the step is narrower: magnitudes of
53 bits are further apart than decimals of seventeen digits.

So the search ends with a decimal of the interval, and that is nearer to the number than half of
a spacing.
-/

/-! ## Magnitudes beside a magnitude -/

namespace Binary64

/--
How far the units of a magnitude are above those of the one before, and below those of the one
after: not more than its share of a significand, and together more than seventeen digits need.
-/
structure Spaced (units below above : Nat) : Prop where
  below_pos : 0 < below
  above_pos : 0 < above
  below_le : 2 ^ 52 * below ≤ units + 2 ^ 52
  above_le : 2 ^ 52 * above ≤ units + 2 ^ 52
  apart : 2 * units < 10 ^ 16 * (below + above)

/-- Every magnitude has a significand of 53 bits, which is full unless the spacing is the least. -/
theorem exists_significand (magnitude : Nat) :
    ∃ significand spacing, magnitude = significand + spacing * magnitudesPerBlock ∧
      significand < 2 ^ 53 ∧ (spacing = 0 ∨ 2 ^ 52 ≤ significand) := by
  have block : magnitudesPerBlock = 2 ^ 52 := rfl
  rcases magnitude_cases magnitude with low | ⟨fraction, spacing, short, rfl⟩
  · exact ⟨magnitude, 0, by omega, by omega, .inl rfl⟩
  · refine ⟨2 ^ 52 + fraction, spacing, ?_, by omega, .inr (Nat.le_add_right _ _)⟩
    rw [Nat.succ_mul, block]
    omega

theorem exists_spaced {magnitude : Nat} (some : 0 < magnitude) :
    ∃ below above, unitsOfMagnitude magnitude = unitsOfMagnitude (magnitude - 1) + below ∧
      unitsOfMagnitude (magnitude + 1) = unitsOfMagnitude magnitude + above ∧
      Spaced (unitsOfMagnitude magnitude) below above := by
  have block : magnitudesPerBlock = 2 ^ 52 := rfl
  rcases exists_significand magnitude with ⟨significand, spacing, rfl, short, full⟩
  have own := unitsOfMagnitude_significand significand spacing (Nat.le_of_lt short) full
  have next := unitsOfMagnitude_significand (significand + 1) spacing short (by omega)
  have most := Nat.mul_lt_mul_of_pos_right short (Nat.two_pow_pos spacing)
  have least : 2 ^ 52 * 2 ^ spacing ≤ significand * 2 ^ spacing + 2 ^ 52 := by
    rcases full with none | full
    · rw [none]
      omega
    · exact Nat.le_trans (Nat.mul_le_mul_right _ full) (Nat.le_add_right _ _)
  rw [Nat.succ_mul, Nat.add_right_comm] at next
  by_cases inside : spacing = 0 ∨ 2 ^ 52 < significand
  · have previous := unitsOfMagnitude_significand (significand - 1) spacing (by omega) (by omega)
    have index : significand + spacing * magnitudesPerBlock - 1 =
        significand - 1 + spacing * magnitudesPerBlock := by
      rcases inside with none | greater
      · rw [none]
        omega
      · omega
    have one : 1 ≤ significand := by
      rcases inside with none | greater
      · rw [none] at some
        omega
      · omega
    have step := Nat.sub_mul significand 1 (2 ^ spacing)
    have wide := Nat.mul_le_mul_right (2 ^ spacing) one
    rw [← index] at previous
    refine ⟨2 ^ spacing, 2 ^ spacing, by omega, by omega, ?_⟩
    rw [own]
    constructor <;> omega
  · -- The first magnitude of a block is half as far from the one before as from the next.
    rcases not_or.mp inside with ⟨spaced, least⟩
    obtain rfl : significand = 2 ^ 52 := by omega
    rcases Nat.exists_eq_succ_of_ne_zero spaced with ⟨narrower, rfl⟩
    have previous := unitsOfMagnitude_significand (2 ^ 53 - 1) narrower (by omega)
      (.inr (by omega))
    have index : 2 ^ 52 + narrower.succ * magnitudesPerBlock - 1 =
        2 ^ 53 - 1 + narrower * magnitudesPerBlock := by
      rw [Nat.succ_mul, block]
      omega
    have doubled : 2 ^ narrower.succ = 2 * 2 ^ narrower := Nat.pow_succ'
    rw [← index] at previous
    rw [doubled] at own next
    refine ⟨2 ^ narrower, 2 * 2 ^ narrower, by omega, by omega, ?_⟩
    rw [own]
    constructor <;> omega

end Binary64

namespace Decimal

/-! ## Digits -/

theorem digitCount_pos (n : Nat) : 0 < digitCount n :=
  List.length_pos_of_ne_nil Nat.toDigits_ne_nil

theorem lt_pow_digitCount (n : Nat) : n < 10 ^ digitCount n :=
  (Nat.length_toDigits_le_iff (by decide) (digitCount_pos n)).mp (Nat.le_refl _)

theorem pow_digitCount_le {n : Nat} (some : 0 < n) : 10 ^ (digitCount n - 1) ≤ n := by
  rcases Nat.eq_zero_or_pos (digitCount n - 1) with none | more
  · rw [none]
    exact some
  · by_contra short
    have fewer := (Nat.length_toDigits_le_iff (by decide) more).mpr (Nat.lt_of_not_le short)
    have count := digitCount_pos n
    unfold digitCount at count fewer
    omega

/-! ## Grids -/

/-- The value of a decimal. -/
def value (d : Decimal) : ℚ := d.coefficient * 10 ^ d.exponent

theorem value_ofSteps (steps : Nat) (exponent : Int) :
    (ofSteps steps exponent).value = steps * 10 ^ exponent := by
  unfold ofSteps value
  split
  case isTrue ten =>
      rw [ten, Nat.cast_one, one_mul, zpow_add_one₀ (by norm_num), mul_comm, Nat.cast_ofNat]
  case isFalse => rfl

theorem inSteps_pos (numerator : Nat) {denominator : Nat} (positive : 0 < denominator)
    (exponent : Int) : 0 < (inSteps numerator denominator exponent).2 := by
  unfold inSteps
  split
  · exact Nat.mul_pos positive (Nat.pow_pos (by decide))
  · exact positive

/-- A quotient measured in steps is the quotient over the step. -/
theorem inSteps_div (numerator denominator : Nat) (exponent : Int) :
    ((inSteps numerator denominator exponent).1 : ℚ) /
      (inSteps numerator denominator exponent).2 = numerator / denominator / 10 ^ exponent := by
  unfold inSteps
  split
  case isTrue nonneg =>
      rcases Int.eq_ofNat_of_zero_le nonneg with ⟨places, rfl⟩
      rw [Int.toNat_natCast, Nat.pow_eq, zpow_natCast, Nat.cast_mul, Nat.cast_pow, div_div]
      rfl
  case isFalse negative =>
      rcases Int.eq_ofNat_of_zero_le (show 0 ≤ -exponent by omega) with ⟨places, opposite⟩
      rw [← neg_neg exponent, opposite, neg_neg, Int.toNat_natCast, Nat.pow_eq, zpow_neg,
        zpow_natCast, div_inv_eq_mul, Nat.cast_mul, Nat.cast_pow, mul_div_right_comm]
      rfl

namespace Interval

/-- The quotients of an interval. -/
def Contains (interval : Interval) (denominator : Nat) (q : ℚ) : Prop :=
  if interval.closed then interval.low / denominator ≤ q ∧ q ≤ interval.high / denominator
  else interval.low / denominator < q ∧ q < interval.high / denominator

theorem Contains.bounds {interval : Interval} {denominator : Nat} {q : ℚ}
    (inside : interval.Contains denominator q) :
    (interval.low : ℚ) / denominator ≤ q ∧ q ≤ interval.high / denominator := by
  unfold Contains at inside
  split at inside
  · exact inside
  · exact ⟨inside.1.le, inside.2.le⟩

theorem contains_of_between {interval : Interval} {denominator : Nat} {q : ℚ}
    (above : (interval.low : ℚ) / denominator < q) (below : q < interval.high / denominator) :
    interval.Contains denominator q := by
  unfold Contains
  split
  · exact ⟨above.le, below.le⟩
  · exact ⟨above, below⟩

/-- The test counts steps, and so compares exactly. -/
theorem holds_iff (interval : Interval) {denominator : Nat} (positive : 0 < denominator)
    (steps : Nat) (exponent : Int) :
    interval.holds denominator steps exponent = true ↔
      interval.Contains denominator (steps * 10 ^ exponent) := by
  have power : (0 : ℚ) < 10 ^ exponent := zpow_pos (by norm_num) _
  have measured (count : Nat) := inSteps_div count denominator exponent
  have some (count : Nat) : (0 : ℚ) < (inSteps count denominator exponent).2 :=
    Nat.cast_pos.mpr (inSteps_pos count positive exponent)
  have least (count : Nat) :
      (inSteps count denominator exponent).1 ≤
          steps * (inSteps count denominator exponent).2 ↔
        (count : ℚ) / denominator ≤ steps * 10 ^ exponent := by
    rw [← div_le_iff₀ power, ← measured, div_le_iff₀ (some count)]
    exact_mod_cast Iff.rfl
  have most (count : Nat) :
      steps * (inSteps count denominator exponent).2 ≤
          (inSteps count denominator exponent).1 ↔
        steps * 10 ^ exponent ≤ (count : ℚ) / denominator := by
    rw [← le_div_iff₀ power, ← measured, le_div_iff₀ (some count)]
    exact_mod_cast Iff.rfl
  unfold holds Contains
  dsimp only
  split
  · rw [Bool.and_eq_true, decide_eq_true_iff, decide_eq_true_iff, least, most]
  · rw [Bool.and_eq_true, decide_eq_true_iff, decide_eq_true_iff, ← not_le, ← not_le, least,
      most, not_le, not_le]

end Interval

/-! ## The search -/

section Search

variable {interval : Interval} {numerator denominator : Nat} (positive : 0 < denominator)
include positive

/-- A neighbour that is taken is in the interval. -/
theorem contains_of_neighbour? {exponent : Int} {steps : Nat}
    (taken : neighbour? interval numerator denominator exponent = some steps) :
    interval.Contains denominator (steps * 10 ^ exponent) := by
  rw [← Interval.holds_iff interval positive]
  unfold neighbour? at taken
  dsimp only at taken
  generalize (inSteps numerator denominator exponent).1 /
    (inSteps numerator denominator exponent).2 = below at taken
  split at taken
  case h_1 first second =>
      have either (steps : Nat) (beside : steps = below ∨ steps = below + 1) :
          interval.holds denominator steps exponent = true := by
        rcases beside with rfl | rfl
        · exact first
        · exact second
      apply either
      split at taken
      · exact .inl (Option.some.inj taken).symm
      · split at taken
        · exact .inr (Option.some.inj taken).symm
        · have := Nat.mod_lt below (show 0 < 2 by decide)
          have := Option.some.inj taken
          omega
  case h_2 first _ => rwa [← Option.some.inj taken]
  case h_3 _ second => rwa [← Option.some.inj taken]
  case h_4 => cases taken

/-- Where no neighbour is taken, the interval is no wider than a step. -/
theorem width_le_of_neighbour? {exponent : Int}
    (above : (interval.low : ℚ) / denominator < numerator / denominator)
    (below : (numerator : ℚ) / denominator < interval.high / denominator)
    (missed : neighbour? interval numerator denominator exponent = none) :
    (interval.high : ℚ) / denominator - interval.low / denominator ≤ 10 ^ exponent := by
  have step : (0 : ℚ) < 10 ^ exponent := zpow_pos (by norm_num) _
  have some : (0 : ℚ) < (inSteps numerator denominator exponent).2 :=
    Nat.cast_pos.mpr (inSteps_pos numerator positive exponent)
  let steps := (inSteps numerator denominator exponent).1 /
    (inSteps numerator denominator exponent).2
  -- The quotient is between two neighbours on the grid.
  have reached : (steps : ℚ) * 10 ^ exponent ≤ numerator / denominator := by
    rw [← le_div_iff₀ step, ← inSteps_div, le_div_iff₀ some]
    exact_mod_cast Nat.div_mul_le_self _ _
  have passed : (numerator : ℚ) / denominator < ((steps + 1 : Nat) : ℚ) * 10 ^ exponent := by
    rw [← div_lt_iff₀ step, ← inSteps_div, div_lt_iff₀ some]
    exact_mod_cast (Nat.div_lt_iff_lt_mul (Nat.cast_pos.mp some)).mp (Nat.lt_succ_self steps)
  -- Both are outside of the interval, so they are at its ends or beyond.
  have outside : ¬interval.Contains denominator (steps * 10 ^ exponent) ∧
      ¬interval.Contains denominator ((steps + 1 : Nat) * 10 ^ exponent) := by
    rw [← Interval.holds_iff interval positive, ← Interval.holds_iff interval positive]
    unfold neighbour? at missed
    dsimp only at missed
    split at missed
    case h_1 =>
        split at missed
        · cases missed
        · split at missed <;> cases missed
    case h_2 => cases missed
    case h_3 => cases missed
    case h_4 first second => exact ⟨Bool.eq_false_iff.mp first, Bool.eq_false_iff.mp second⟩
  have low : (steps : ℚ) * 10 ^ exponent ≤ interval.low / denominator := by
    by_contra inside
    exact outside.1 (Interval.contains_of_between (not_le.mp inside) (reached.trans_lt below))
  have high : (interval.high : ℚ) / denominator ≤ ((steps + 1 : Nat) : ℚ) * 10 ^ exponent := by
    by_contra inside
    exact outside.2 (Interval.contains_of_between (above.trans passed) (not_le.mp inside))
  rw [Nat.cast_succ, add_mul, one_mul] at high
  linarith

/-- The search ends in the interval, when that is wider than the steps of seventeen digits. -/
theorem contains_searchFrom {leading : Int} {fuel : Nat} (some : 0 < fuel)
    (above : (interval.low : ℚ) / denominator < numerator / denominator)
    (below : (numerator : ℚ) / denominator < interval.high / denominator)
    (wide : (10 : ℚ) ^ (leading - 16) <
      interval.high / denominator - interval.low / denominator) :
    interval.Contains denominator
      (searchFrom interval numerator denominator leading fuel).value := by
  induction fuel with
  | zero => exact absurd some (Nat.lt_irrefl 0)
  | succ fuel inductionHypothesis =>
      unfold searchFrom
      dsimp only
      split
      case h_1 steps taken =>
          rw [value_ofSteps]
          exact contains_of_neighbour? positive taken
      case h_2 missed =>
          rcases Nat.eq_zero_or_pos fuel with rfl | more
          · have narrow := width_le_of_neighbour? positive above below missed
            exact absurd (narrow.trans_lt' wide) (lt_irrefl _)
          · exact inductionHypothesis more

/-- The first digit of a positive quotient is in its place. -/
theorem zpow_leadingExponent_le (some : 0 < numerator) :
    (10 : ℚ) ^ leadingExponent numerator denominator ≤ numerator / denominator := by
  have divides : (0 : ℚ) < denominator := Nat.cast_pos.mpr positive
  have power (count : Nat) : (0 : ℚ) < 10 ^ count := by positivity
  unfold leadingExponent
  split
  case isTrue whole =>
      have reached := pow_digitCount_le (Nat.div_pos whole positive)
      have below : 10 ^ (digitCount (numerator / denominator) - 1) * denominator ≤ numerator :=
        (Nat.mul_le_mul_right _ reached).trans (Nat.div_mul_le_self _ _)
      have exponent : (digitCount (numerator / denominator) : Int) - 1 =
          (digitCount (numerator / denominator) - 1 : Nat) := by
        have := digitCount_pos (numerator / denominator)
        omega
      rw [exponent, zpow_natCast, le_div_iff₀ divides]
      exact_mod_cast below
  case isFalse =>
      have passed := lt_pow_digitCount ((denominator - 1) / numerator)
      rw [Nat.div_lt_iff_lt_mul some, Nat.mul_comm] at passed
      have above : denominator ≤ numerator * 10 ^ digitCount ((denominator - 1) / numerator) := by
        omega
      rw [zpow_neg, zpow_natCast, inv_eq_one_div, div_le_div_iff₀ (power _) divides, one_mul]
      exact_mod_cast above

end Search

end Decimal

namespace Binary64

/-! ## The shortest decimal -/

/-- The quotients that round to a magnitude reach halfway to its neighbours. -/
theorem between_shortestDecimal {magnitude : Nat} (some : 0 < magnitude) :
    ((unitsOfMagnitude (magnitude - 1) + unitsOfMagnitude magnitude : Nat) : ℚ) /
        (2 * unitsPerOne : Nat) ≤ (shortestDecimal magnitude).value ∧
      (shortestDecimal magnitude).value ≤
        ((unitsOfMagnitude magnitude + unitsOfMagnitude (magnitude + 1) : Nat) : ℚ) /
          (2 * unitsPerOne : Nat) := by
  rcases exists_spaced some with ⟨below, above, previous, next, spaced⟩
  have positive : 0 < 2 * unitsPerOne := Nat.mul_pos (by decide) unitsPerOne_pos
  have units : 0 < unitsOfMagnitude magnitude := unitsOfMagnitude_pos (Nat.ne_of_gt some)
  have divides : (0 : ℚ) < (2 * unitsPerOne : Nat) := Nat.cast_pos.mpr positive
  have leading :=
    Decimal.zpow_leadingExponent_le positive (Nat.mul_pos (show 0 < 2 by decide) units)
  have least := spaced.below_pos
  have most := spaced.above_pos
  unfold shortestDecimal
  refine (Decimal.contains_searchFrom positive (by decide) ?_ ?_ ?_).bounds
  · rw [div_lt_div_iff_of_pos_right divides, Nat.cast_lt]
    dsimp only
    omega
  · rw [div_lt_div_iff_of_pos_right divides, Nat.cast_lt]
    dsimp only
    omega
  · have span : unitsOfMagnitude magnitude + unitsOfMagnitude (magnitude + 1) =
        unitsOfMagnitude (magnitude - 1) + unitsOfMagnitude magnitude + (below + above) := by
      omega
    have apart : ((2 * unitsOfMagnitude magnitude : Nat) : ℚ) < 10 ^ 16 * (below + above : Nat) := by
      exact_mod_cast spaced.apart
    rw [zpow_sub₀ (by norm_num), div_lt_iff₀ (by norm_num)]
    refine leading.trans_lt ?_
    rw [← sub_div, div_mul_eq_mul_div, div_lt_div_iff_of_pos_right divides, span, Nat.cast_add,
      add_sub_cancel_left, mul_comm ((below + above : Nat) : ℚ)]
    exact apart

/-- The shortest decimal of a number is within half of a spacing of its value. -/
theorem abs_shortestDecimal_sub_le {magnitude : Nat} (some : 0 < magnitude) :
    |(shortestDecimal magnitude).value - (unitsOfMagnitude magnitude : ℚ) / unitsPerOne| ≤
      ((unitsOfMagnitude magnitude : ℚ) / unitsPerOne + 1) / 2 ^ 53 := by
  rcases exists_spaced some with ⟨below, above, previous, next, spaced⟩
  have one : (0 : ℚ) < unitsPerOne := Nat.cast_pos.mpr unitsPerOne_pos
  have fine : (2 : ℚ) ^ 52 ≤ unitsPerOne := by exact_mod_cast magnitudesPerBlock_le_unitsPerOne
  have share {count : Nat} (few : 2 ^ 52 * count ≤ unitsOfMagnitude magnitude + 2 ^ 52) :
      (count : ℚ) / (2 * unitsPerOne) ≤
        ((unitsOfMagnitude magnitude : ℚ) / unitsPerOne + 1) / 2 ^ 53 := by
    have cast : (2 : ℚ) ^ 52 * count ≤ unitsOfMagnitude magnitude + 2 ^ 52 := by
      exact_mod_cast few
    have scaled := mul_le_mul_of_nonneg_right (cast.trans (add_le_add_right fine _))
      (mul_nonneg zero_le_two one.le)
    have whole : ((unitsOfMagnitude magnitude : ℚ) / unitsPerOne + 1) / 2 ^ 53 =
        (unitsOfMagnitude magnitude + unitsPerOne) / (2 ^ 53 * unitsPerOne) := by
      field_simp
    rw [whole, div_le_div_iff₀ (by linarith) (by linarith)]
    linarith
  have before : (unitsOfMagnitude (magnitude - 1) : ℚ) = unitsOfMagnitude magnitude - below := by
    rw [previous, Nat.cast_add, add_sub_cancel_right]
  have low : ((unitsOfMagnitude (magnitude - 1) + unitsOfMagnitude magnitude : Nat) : ℚ) /
      (2 * unitsPerOne : Nat) =
        unitsOfMagnitude magnitude / unitsPerOne - below / (2 * unitsPerOne) := by
    rw [Nat.cast_add, before, Nat.cast_mul, Nat.cast_ofNat]
    field_simp
    ring
  have high : ((unitsOfMagnitude magnitude + unitsOfMagnitude (magnitude + 1) : Nat) : ℚ) /
      (2 * unitsPerOne : Nat) =
        unitsOfMagnitude magnitude / unitsPerOne + above / (2 * unitsPerOne) := by
    rw [next, Nat.cast_add, Nat.cast_add, Nat.cast_mul, Nat.cast_ofNat]
    field_simp
    ring
  have bounds := between_shortestDecimal some
  rw [low, high] at bounds
  rw [abs_le]
  constructor
  · linarith [bounds.1, share spaced.below_le]
  · linarith [bounds.2, share spaced.above_le]

end Binary64

end TestSignal
