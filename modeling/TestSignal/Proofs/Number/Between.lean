import TestSignal.Proofs.Number.Halves

namespace TestSignal

/-!
# Rounding keeps a number between two others

A quotient that is no less than a magnitude is rounded to no lesser one, as one that does not
exceed a magnitude is rounded to no greater one.  So a quotient between two counts that the
format holds is rounded to a count between them.

One half is added before a number is cut down to an integer.  A number from one integer to
another stays between their halves above, and is cut down to one of the integers from the
first to the second.

A divisor of at least one makes nothing greater, whether it is an integer of any size, a
binary64 number or infinity.
-/

/-- A rounded quotient is no less than an integer that the quotient is no less than. -/
theorem Rounding.le_nearestEven {numerator denominator bound : Nat} (positive : 0 < denominator)
    (above : bound * denominator ≤ numerator) : bound ≤ nearestEven numerator denominator :=
  Nat.le_trans ((Nat.le_div_iff_mul_le positive).mpr above) (nearestEven_bounds _ _).1

namespace Binary64

/-- A count whose quotient has more bits than a significand fills one. -/
theorem le_nearestEven_of_log2 (numerator : Nat) {denominator : Nat} (positive : 0 < denominator)
    (wide : 0 < (numerator / denominator).log2 - 52) :
    magnitudesPerBlock ≤ Rounding.nearestEven numerator
      (denominator * 2 ^ ((numerator / denominator).log2 - 52)) := by
  have nonzero : numerator / denominator ≠ 0 := by
    intro zero
    rw [zero] at wide
    exact absurd wide (by decide)
  refine Rounding.le_nearestEven (Nat.mul_pos positive (Nat.two_pow_pos _)) ?_
  change 2 ^ 52 * _ ≤ _
  calc 2 ^ 52 * (denominator * 2 ^ ((numerator / denominator).log2 - 52))
      = 2 ^ (numerator / denominator).log2 * denominator := by
        rw [Nat.mul_comm denominator, ← Nat.mul_assoc, ← Nat.pow_add,
          Nat.add_sub_cancel' (by omega)]
    _ ≤ numerator / denominator * denominator :=
        Nat.mul_le_mul_right _ (Nat.log2_self_le nonzero)
    _ ≤ numerator := Nat.div_mul_le_self _ _

/-- A quotient is rounded to no lesser magnitude than one whose units it is no less than. -/
theorem le_nearestMagnitude {numerator denominator magnitude : Nat} (positive : 0 < denominator)
    (above : unitsOfMagnitude magnitude * denominator ≤ numerator) :
    magnitude ≤ nearestMagnitude numerator denominator := by
  have quotient : unitsOfMagnitude magnitude ≤ numerator / denominator :=
    (Nat.le_div_iff_mul_le positive).mpr above
  have full := le_nearestEven_of_log2 numerator positive
  unfold nearestMagnitude
  dsimp only
  rw [Nat.pow_eq]
  generalize width : (numerator / denominator).log2 - 52 = spacing at full ⊢
  have spaced : 0 < denominator * 2 ^ spacing := Nat.mul_pos positive (Nat.two_pow_pos spacing)
  rcases magnitude_cases magnitude with low | ⟨fraction, own, short, rfl⟩
  · rw [unitsOfMagnitude_low low] at above
    rcases Nat.eq_zero_or_pos spacing with narrow | wide
    · rw [narrow, Nat.pow_zero, Nat.mul_one, Nat.zero_mul, Nat.add_zero]
      exact Rounding.le_nearestEven positive above
    · have significand := full wide
      omega
  · rw [unitsOfMagnitude_block short] at above quotient
    have wider : own ≤ spacing := by
      have nonzero : numerator / denominator ≠ 0 := by
        have some : 0 < (magnitudesPerBlock + fraction) * 2 ^ own :=
          Nat.mul_pos (by omega) (Nat.two_pow_pos own)
        omega
      have bits : 2 ^ (52 + own) ≤ numerator / denominator := by
        rw [Nat.pow_add]
        exact Nat.le_trans (Nat.mul_le_mul_right _ (Nat.le_add_right _ _)) quotient
      have := (Nat.le_log2 nonzero).mpr bits
      omega
    rcases Nat.lt_or_eq_of_le wider with beyond | same
    · -- A wider spacing begins at the earliest where the block of the magnitude ends.
      have blocks : (own + 1) * magnitudesPerBlock ≤ spacing * magnitudesPerBlock :=
        Nat.mul_le_mul_right _ beyond
      have significand := full (Nat.lt_of_le_of_lt (Nat.zero_le own) beyond)
      omega
    · rw [← same] at spaced ⊢
      rw [Nat.mul_assoc, Nat.mul_comm _ denominator] at above
      have rounded := Rounding.le_nearestEven spaced above
      rw [Nat.succ_mul]
      omega

/-- A quotient between two held counts is rounded to a count between them. -/
theorem exists_units?_ofQuotient {low high numerator denominator : Nat} (least : Held low)
    (most : Held high) (positive : 0 < denominator) (above : low * denominator ≤ numerator)
    (below : numerator ≤ high * denominator) :
    ∃ units : Nat, (ofQuotient false numerator denominator).units? = some (units : Int) ∧
      low ≤ units ∧ units ≤ high := by
  rcases least with ⟨lowest, _, rfl⟩
  rcases most with ⟨highest, bounded, rfl⟩
  have under := nearestMagnitude_le positive below
  unfold ofQuotient
  rw [dif_pos (Nat.lt_of_le_of_lt under bounded)]
  exact ⟨_, rfl, unitsOfMagnitude_mono (le_nearestMagnitude positive above),
    unitsOfMagnitude_mono under⟩

/-- A quotient that does not exceed an integer is rounded to a number from zero to it. -/
theorem exists_units?_ofQuotient_le {number dividend divisor : Nat} (short : number < 2 ^ 53)
    (positive : 0 < divisor) (below : dividend ≤ number * unitsPerOne * divisor) :
    ∃ units : Nat, (ofQuotient false dividend divisor).units? = some (units : Int) ∧
      units ≤ number * unitsPerOne := by
  have least : Held (0 * unitsPerOne) := held_integer (by decide)
  rcases exists_units?_ofQuotient least (held_integer short) positive (by simp) below with
    ⟨units, counted, _, most⟩
  exact ⟨units, counted, most⟩

end Binary64

namespace Number

open Binary64

/-- A number from one integer to another is rounded half up to an integer from the one to the
other. -/
theorem exists_roundHalfUp_between {x : Binary64} {units : Int} (low high : Nat)
    (counted : x.units? = some units) (least : low * unitsPerOne ≤ units)
    (most : units ≤ high * unitsPerOne) (short : high < 2 ^ 51) :
    ∃ rounded, roundHalfUp (float x) = .ok rounded ∧ low ≤ rounded ∧ rounded ≤ high := by
  have nonneg : 0 ≤ units := by
    rw [← Int.natCast_mul] at least
    omega
  rcases Int.eq_ofNat_of_zero_le nonneg with ⟨size, rfl⟩
  have least : low * unitsPerOne ≤ size := by exact_mod_cast least
  have most : size ≤ high * unitsPerOne := by exact_mod_cast most
  have ordered : low ≤ high :=
    Nat.le_of_mul_le_mul_right (Nat.le_trans least most) unitsPerOne_pos
  have halves (count : Nat) :
      count * unitsPerOne + unitsPerHalf = (2 * count + 1) * unitsPerHalf := by
    rw [unitsPerOne_eq, ← Nat.mul_assoc, Nat.mul_comm count, Nat.add_mul, Nat.one_mul]
  have above : (2 * low + 1) * unitsPerHalf * 1 ≤ size + unitsPerHalf := by
    rw [Nat.mul_one, ← halves]
    omega
  have below : size + unitsPerHalf ≤ (2 * high + 1) * unitsPerHalf * 1 := by
    rw [Nat.mul_one, ← halves]
    omega
  have some : 0 < size + unitsPerHalf := Nat.add_pos_right _ unitsPerHalf_pos
  rcases exists_units?_ofQuotient (held_half (by omega)) (held_half (by omega)) Nat.one_pos
    above below with ⟨sum, summed, sumLeast, sumMost⟩
  have raised : (x.add half).units? = .some (sum : Int) := by
    rcases add_eq_ofQuotient counted units?_half with ⟨sign, added⟩
    have signless : decide ((size : Int) + unitsPerHalf < 0) = false :=
      decide_eq_false (by omega)
    rw [added, if_neg (by omega), signless, ← Int.natCast_add, Int.natAbs_natCast, summed]
  have cut : roundHalfUp (float x) = .ok (sum / unitsPerOne : Nat) := by
    change floorInteger (x.add half) = _
    unfold floorInteger Binary64.floor?
    rw [raised, Option.map_some, Int.fdiv_eq_ediv_of_nonneg _ (Int.natCast_nonneg _)]
    rfl
  refine ⟨_, cut, ?_, ?_⟩
  · have reached : low * unitsPerOne ≤ sum := by
      rw [← halves] at sumLeast
      omega
    exact_mod_cast (Nat.le_div_iff_mul_le unitsPerOne_pos).mpr reached
  · have passed : sum < (high + 1) * unitsPerOne := by
      rw [← halves] at sumMost
      have := unitsPerHalf_pos
      have := unitsPerOne_eq
      rw [Nat.add_mul, Nat.one_mul]
      omega
    exact_mod_cast Nat.le_of_lt_succ ((Nat.div_lt_iff_lt_mul unitsPerOne_pos).mpr passed)

/-! ## Divisors of at least one -/

theorem one_le_max (x : Number) : (1 : Number).le (Number.max 1 x) = true := by
  unfold Number.max
  split
  case isTrue greater => exact le_of_lt greater
  case isFalse => exact (le_iff_of_place rfl rfl).mpr (Int.le_refl _)

variable {number : Nat} (short : number < 2 ^ 53)
include short

/-- An integer divisor is counted on its own, whatever its size. -/
theorem exists_div_integer {divisor : Nat} (positive : 0 < divisor) :
    ∃ x, ∃ units : Nat, (int number).div (int divisor) = .ok (float x) ∧
      x.units? = some (units : Int) ∧ units ≤ number * unitsPerOne := by
  rcases exists_units?_ofQuotient_le short positive (Nat.le_mul_of_pos_right _ positive) with
    ⟨units, made, most⟩
  have signs : (decide ((number : Int) < 0) != decide ((divisor : Int) < 0)) = false := by
    rw [decide_eq_false (by omega), decide_eq_false (by omega)]
    rfl
  refine ⟨_, units, div_int rfl rfl ?_ (finite?_eq_some.mp (finite?_of_units made)).2, made, most⟩
  rw [signs]
  rfl

/-- For any other divisor the number is a binary64 one first, which holds it exactly. -/
theorem exists_div_float (nonzero : 0 < number) (divisor : Binary64) :
    ∃ magnitude, unitsOfMagnitude magnitude.val = number * unitsPerOne ∧
      (int number).div (float divisor) =
        .ok (float ((Binary64.finite false magnitude).div divisor)) := by
  rcases ofInt?_exact (show (number : Int).natAbs < 2 ^ 53 by omega) with
    ⟨dividend, converted, units⟩
  have divided : (int number).div (float divisor) = .ok (float (dividend.div divisor)) :=
    Outcome.bind_ok.mpr ⟨dividend, toBinary64_int.mpr converted, rfl⟩
  rcases exists_finite_of_units unitsPerOne_pos units (by omega) with ⟨magnitude, rfl, size⟩
  rw [Int.natAbs_natCast] at size
  rw [decide_eq_false (by omega)] at divided
  exact ⟨magnitude, size, divided⟩

/-- A natural number over a number of at least one is rounded to a number from zero to
itself. -/
theorem exists_div_between (nonzero : 0 < number) {divisor : Number}
    (least : (1 : Number).le divisor = true) :
    ∃ x, ∃ units : Nat, (int number).div divisor = .ok (float x) ∧
      x.units? = some (units : Int) ∧ units ≤ number * unitsPerOne := by
  have one : (1 : Number).place = .at (1 * unitsPerOne) := rfl
  cases divisor with
  | int whole =>
      have placed : (int whole).place = .at (whole * unitsPerOne) := rfl
      have counted : 1 ≤ whole :=
        Int.le_of_mul_le_mul_right ((le_iff_of_place one placed).mp least)
          (Int.natCast_pos.mpr unitsPerOne_pos)
      rcases Int.eq_ofNat_of_zero_le (show 0 ≤ whole by omega) with ⟨size, rfl⟩
      exact exists_div_integer short (by omega)
  | float x =>
      rcases exists_div_float short nonzero x with ⟨magnitude, size, divided⟩
      cases x with
      | finite negative other =>
          let ownUnits : Int := unitsOfMagnitude other.val
          have placed : (float (finite negative other)).place =
              .at (if negative then -ownUnits else ownUnits) := rfl
          have ordered := (le_iff_of_place one placed).mp least
          have large := unitsPerOne_pos
          cases negative with
          | true =>
              rw [if_pos rfl] at ordered
              omega
          | false =>
              rw [if_neg Bool.false_ne_true] at ordered
              have above : unitsPerOne ≤ unitsOfMagnitude other.val := by omega
              have notZero : other.val ≠ 0 := by
                intro zero
                rw [zero, show unitsOfMagnitude 0 = 0 by decide] at above
                omega
              rcases exists_units?_ofQuotient_le short (Nat.lt_of_lt_of_le large above)
                (Nat.mul_le_mul_left (number * unitsPerOne) above) with ⟨quotient, made, most⟩
              refine ⟨_, quotient, divided, ?_, most⟩
              rw [div_finite _ _ _ _ notZero, size]
              exact made
      | infinite negative =>
          cases negative with
          | true => cases least
          | false =>
              rcases exists_units?_ofQuotient_le short Nat.one_pos (Nat.zero_le _) with
                ⟨quotient, made, most⟩
              exact ⟨_, quotient, divided, made, most⟩
      | nan => cases least

end Number

end TestSignal
