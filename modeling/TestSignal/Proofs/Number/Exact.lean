import Mathlib.Algebra.Group.Nat.Defs
import TestSignal.Number.Basic
import TestSignal.Proofs.Outcome

namespace TestSignal

/-!
# Exact results of binary64 operations

A result that the format can hold is not rounded.  A magnitude has at most 53
significant bits, and every natural number with that many bits, shifted by any power
of two that stays below the infinite, is the units of a magnitude.  Rounding finds
that magnitude again.

Integers and halves of moderate size are held exactly, so rounding half up is the
identity on integers although it adds its half in binary64.
-/

/-- A factor of both terms does not change how their quotient is rounded. -/
theorem Rounding.nearestEven_mul_mul (numerator denominator : Nat) {factor : Nat}
    (positive : 0 < factor) :
    nearestEven (numerator * factor) (denominator * factor) =
      nearestEven numerator denominator := by
  have smaller : ∀ a b : Nat, a * factor < b * factor ↔ a < b := fun a b =>
    Nat.mul_lt_mul_right positive
  unfold nearestEven
  dsimp only
  rw [Nat.mul_div_mul_right _ _ positive, Nat.mul_mod_mul_right, ← Nat.mul_assoc]
  simp only [smaller]

namespace Binary64

/-! ## Magnitudes -/

theorem unitsOfMagnitude_low {magnitude : Nat} (low : magnitude < magnitudesPerBlock) :
    unitsOfMagnitude magnitude = magnitude := by
  unfold unitsOfMagnitude
  rw [Nat.div_eq_of_lt low, Nat.mod_eq_of_lt low]
  rfl

/-- The magnitudes of a block are a significand apart, scaled by the block's spacing. -/
theorem unitsOfMagnitude_block {fraction : Nat} (short : fraction < magnitudesPerBlock)
    (spacing : Nat) :
    unitsOfMagnitude (fraction + (spacing + 1) * magnitudesPerBlock) =
      (magnitudesPerBlock + fraction) * 2 ^ spacing := by
  have positive : 0 < magnitudesPerBlock := by decide
  unfold unitsOfMagnitude
  rw [Nat.add_mul_div_right _ _ positive, Nat.div_eq_of_lt short, Nat.add_mul_mod_self_right,
    Nat.mod_eq_of_lt short, Nat.zero_add]
  rfl

/-- A magnitude counts units, or stands in a block with a spacing. -/
theorem magnitude_cases (magnitude : Nat) :
    magnitude < magnitudesPerBlock ∨
      ∃ fraction spacing, fraction < magnitudesPerBlock ∧
        magnitude = fraction + (spacing + 1) * magnitudesPerBlock := by
  have positive : 0 < magnitudesPerBlock := by decide
  cases block : magnitude / magnitudesPerBlock with
  | zero => exact Or.inl (Nat.lt_of_div_eq_zero positive block)
  | succ spacing =>
      refine Or.inr ⟨magnitude % magnitudesPerBlock, spacing, Nat.mod_lt _ positive, ?_⟩
      have parts := Nat.mod_add_div magnitude magnitudesPerBlock
      rw [block, Nat.mul_comm] at parts
      exact parts.symm

theorem log2_block {fraction : Nat} (short : fraction < magnitudesPerBlock) (spacing : Nat) :
    ((magnitudesPerBlock + fraction) * 2 ^ spacing).log2 = 52 + spacing := by
  have positive : 0 < 2 ^ spacing := Nat.two_pow_pos spacing
  change fraction < 2 ^ 52 at short
  change ((2 ^ 52 + fraction) * 2 ^ spacing).log2 = 52 + spacing
  rw [Nat.log2_eq_iff (Nat.mul_ne_zero (by omega) (by omega))]
  constructor
  · rw [Nat.pow_add]
    exact Nat.mul_le_mul_right _ (Nat.le_add_right _ _)
  · rw [Nat.add_right_comm, Nat.pow_add]
    exact Nat.mul_lt_mul_of_pos_right (by omega) positive

/-- Rounding the units of a magnitude finds the magnitude. -/
theorem nearestMagnitude_unitsOfMagnitude (magnitude : Nat) :
    nearestMagnitude (unitsOfMagnitude magnitude) 1 = magnitude := by
  unfold nearestMagnitude
  dsimp only
  rw [Nat.div_one, Nat.one_mul]
  rcases magnitude_cases magnitude with low | ⟨fraction, spacing, short, rfl⟩
  · have bits : magnitude.log2 - 52 = 0 := by
      by_cases zero : magnitude = 0
      · rw [zero]
        rfl
      · have bound := (Nat.log2_lt (k := 52) zero).mpr low
        omega
    rw [unitsOfMagnitude_low low, bits]
    have alone := Rounding.nearestEven_mul magnitude 1 Nat.one_pos
    rw [Nat.mul_one] at alone
    rw [Nat.zero_mul, Nat.add_zero]
    exact alone
  · rw [unitsOfMagnitude_block short, log2_block short, Nat.add_sub_cancel_left]
    have whole := Rounding.nearestEven_mul (magnitudesPerBlock + fraction) (2 ^ spacing)
      (Nat.two_pow_pos spacing)
    rw [Nat.pow_eq, whole, Nat.succ_mul]
    omega

/-- A quotient that is exact in units is rounded as its count of units is. -/
theorem ofQuotient_mul (negative : Bool) (units : Nat) {factor : Nat} (positive : 0 < factor) :
    ofQuotient negative (units * factor) factor = ofQuotient negative units 1 := by
  have same : nearestMagnitude (units * factor) factor = nearestMagnitude units 1 := by
    unfold nearestMagnitude
    dsimp only
    rw [Nat.mul_div_cancel _ positive, Nat.div_one, Nat.one_mul, Nat.mul_comm factor,
      Rounding.nearestEven_mul_mul _ _ positive]
  unfold ofQuotient
  simp only [same]

/-! ## Counts of units that the format holds -/

/-- A count of units that some magnitude has. -/
def Held (count : Nat) : Prop :=
  ∃ magnitude, magnitude < magnitudeCount ∧ unitsOfMagnitude magnitude = count

/-- A significand of full width with a spacing is a magnitude of the spacing's block. -/
theorem held_full {significand spacing : Nat} (full : magnitudesPerBlock ≤ significand)
    (short : significand < 2 * magnitudesPerBlock) (room : spacing ≤ 2045) :
    Held (significand * 2 ^ spacing) := by
  have fraction : significand - magnitudesPerBlock < magnitudesPerBlock := by omega
  refine ⟨_, ?_, (unitsOfMagnitude_block fraction spacing).trans ?_⟩
  · have blocks : (spacing + 1) * magnitudesPerBlock ≤ 2046 * magnitudesPerBlock :=
      Nat.mul_le_mul_right _ (Nat.succ_le_succ room)
    unfold magnitudeCount
    omega
  · rw [Nat.add_sub_cancel' full]

/-- A number of some width is brought to full width by the shift that is missing. -/
theorem widened {number : Nat} (nonzero : number ≠ 0) (narrow : number.log2 ≤ 52) :
    magnitudesPerBlock ≤ number * 2 ^ (52 - number.log2) ∧
      number * 2 ^ (52 - number.log2) < 2 * magnitudesPerBlock := by
  have width := (Nat.log2_eq_iff nonzero).mp rfl
  change 2 ^ 52 ≤ _ ∧ _ < 2 ^ 53
  constructor
  · calc 2 ^ 52 = 2 ^ number.log2 * 2 ^ (52 - number.log2) := by
          rw [← Nat.pow_add, Nat.add_sub_cancel' narrow]
      _ ≤ number * 2 ^ (52 - number.log2) := Nat.mul_le_mul_right _ width.1
  · calc number * 2 ^ (52 - number.log2)
        < 2 ^ (number.log2 + 1) * 2 ^ (52 - number.log2) :=
          Nat.mul_lt_mul_of_pos_right width.2 (Nat.two_pow_pos _)
      _ = 2 ^ 53 := by
          rw [← Nat.pow_add, Nat.add_right_comm, Nat.add_sub_cancel' narrow]

/-- A short number is held when it is shifted by no more than the format has room for. -/
theorem held_shift {number shift : Nat} (short : number < 2 ^ 53) (room : shift ≤ 2045) :
    Held (number * 2 ^ shift) := by
  -- A count below the first block is its own magnitude; any other fills a significand.
  by_cases low : number * 2 ^ shift < magnitudesPerBlock
  · have few : magnitudesPerBlock < magnitudeCount := by decide
    exact ⟨number * 2 ^ shift, Nat.lt_trans low few, unitsOfMagnitude_low low⟩
  · have nonzero : number ≠ 0 := by
      intro zero
      apply low
      rw [zero, Nat.zero_mul]
      decide
    have narrow : number.log2 ≤ 52 := Nat.le_of_lt_succ ((Nat.log2_lt nonzero).mpr short)
    have missing : 52 - number.log2 ≤ shift := by
      apply Nat.le_of_not_lt
      intro small
      apply low
      calc number * 2 ^ shift
          < 2 ^ (number.log2 + 1) * 2 ^ shift :=
            Nat.mul_lt_mul_of_pos_right ((Nat.log2_lt nonzero).mp (Nat.lt_succ_self _))
              (Nat.two_pow_pos shift)
        _ = 2 ^ (number.log2 + 1 + shift) := (Nat.pow_add ..).symm
        _ ≤ 2 ^ 52 := Nat.pow_le_pow_right (by decide) (by omega)
    rcases widened nonzero narrow with ⟨full, bounded⟩
    have spaced : shift - (52 - number.log2) ≤ 2045 := by omega
    have held := held_full full bounded spaced
    rw [Nat.mul_assoc, ← Nat.pow_add, Nat.add_sub_cancel' missing] at held
    exact held

/-- How many units make one half. -/
def unitsPerHalf : Nat := Nat.pow 2 1073

theorem unitsPerHalf_eq_pow : unitsPerHalf = Nat.pow 2 1073 := by
  unfold unitsPerHalf
  rfl

theorem unitsPerHalf_pos : 0 < unitsPerHalf := pos_of_eq_pow unitsPerHalf_eq_pow

theorem eq_two_mul_of_eq_pow {whole half width next : Nat} (full : whole = Nat.pow 2 next)
    (part : half = Nat.pow 2 width) (follows : next = width + 1) : whole = 2 * half := by
  rw [full, part, follows, Nat.pow_eq, Nat.pow_eq, Nat.pow_succ']

theorem unitsPerOne_eq : unitsPerOne = 2 * unitsPerHalf :=
  eq_two_mul_of_eq_pow unitsPerOne_eq_pow unitsPerHalf_eq_pow rfl

/-- A power of two that the format has room for makes held counts of short numbers. -/
theorem held_of_eq {unit shift : Nat} (same : unit = Nat.pow 2 shift) (room : shift ≤ 2045)
    {number : Nat} (short : number < 2 ^ 53) : Held (number * unit) := by
  rw [same, Nat.pow_eq]
  exact held_shift short room

theorem held_half {number : Nat} (short : number < 2 ^ 53) : Held (number * unitsPerHalf) :=
  held_of_eq unitsPerHalf_eq_pow (by decide) short

theorem held_integer {number : Nat} (short : number < 2 ^ 53) : Held (number * unitsPerOne) :=
  held_of_eq unitsPerOne_eq_pow (by decide) short

/-! ## Exact operations -/

/-- A count of units that is held is not rounded. -/
theorem units?_ofQuotient {count : Nat} (held : Held count) (negative : Bool) :
    (ofQuotient negative count 1).units? =
      some (if negative then -(count : Int) else (count : Int)) := by
  rcases held with ⟨magnitude, bounded, rfl⟩
  unfold ofQuotient
  rw [nearestMagnitude_unitsOfMagnitude, dif_pos bounded]
  rfl

/-- The sign and the size of an integer make it up again. -/
theorem sign_natAbs (value : Int) :
    (if decide (value < 0) then -(value.natAbs : Int) else (value.natAbs : Int)) = value := by
  by_cases negative : value < 0
  · rw [decide_eq_true negative, if_pos rfl]
    omega
  · rw [decide_eq_false negative, if_neg Bool.false_ne_true]
    omega

/-- A sign and a size that make up an integer make up its multiple by a size as well. -/
theorem signed_mul_natCast {negative : Bool} {size : Nat} {value : Int}
    (signed : (if negative then -(size : Int) else size) = value) (unit : Nat) :
    (if negative then -((size * unit : Nat) : Int) else (size * unit : Nat)) = value * unit := by
  rw [← signed, Int.natCast_mul]
  cases negative with
  | false => rfl
  | true => exact (Int.neg_mul _ _).symm

/-- The exact sum of finite numbers is rounded; the sign of a sum of zero comes from them. -/
theorem add_eq_ofQuotient {x y : Binary64} {a b : Int} (left : x.units? = some a)
    (right : y.units? = some b) :
    ∃ sign, x.add y =
      if a + b = 0 then ofQuotient sign 0 1
      else ofQuotient (decide (a + b < 0)) (a + b).natAbs 1 := by
  cases x with
  | infinite _ => cases left
  | nan => cases left
  | finite xNegative xMagnitude =>
      cases y with
      | infinite _ => cases right
      | nan => cases right
      | finite yNegative yMagnitude =>
          refine ⟨xNegative && yNegative, ?_⟩
          rw [← Option.some.inj left, ← Option.some.inj right]
          rfl

/-- A sum that the format holds is exact. -/
theorem units?_add {x y : Binary64} {a b : Int} (left : x.units? = some a)
    (right : y.units? = some b) (held : Held (a + b).natAbs) :
    (x.add y).units? = some (a + b) := by
  rcases add_eq_ofQuotient left right with ⟨sign, sum⟩
  rw [sum]
  by_cases zero : a + b = 0
  · rw [zero, Int.natAbs_zero] at held
    rw [if_pos zero, units?_ofQuotient held, zero]
    cases sign <;> rfl
  · rw [if_neg zero, units?_ofQuotient held, sign_natAbs]

theorem units?_neg {x : Binary64} {units : Int} (counted : x.units? = some units) :
    x.neg.units? = some (-units) := by
  cases x with
  | infinite _ => cases counted
  | nan => cases counted
  | finite negative magnitude =>
      rw [← Option.some.inj counted]
      cases negative with
      | false => rfl
      | true => exact congrArg some (Int.neg_neg _).symm

/-- A difference that the format holds is exact. -/
theorem units?_sub {x y : Binary64} {a b : Int} (left : x.units? = some a)
    (right : y.units? = some b) (held : Held (a - b).natAbs) :
    (x.sub y).units? = some (a - b) := by
  rw [Int.sub_eq_add_neg] at held ⊢
  exact units?_add left (units?_neg right) held

theorem finite?_eq_some {x y : Binary64} : x.finite? = some y ↔ x = y ∧ x.isFinite = true := by
  unfold finite?
  constructor
  · intro kept
    split at kept
    · exact ⟨Option.some.inj kept, ‹_›⟩
    · cases kept
  · rintro ⟨rfl, finite⟩
    exact if_pos finite

theorem finite?_of_units {x : Binary64} {units : Int} (finite : x.units? = some units) :
    x.finite? = some x := by
  cases x with
  | finite negative magnitude => rfl
  | infinite _ => cases finite
  | nan => cases finite

/-- An integer that the format holds is converted exactly. -/
theorem ofInt?_held {value : Int} (held : Held (value.natAbs * unitsPerOne)) :
    ∃ x, ofInt? value = some x ∧ x.units? = some (value * unitsPerOne) := by
  have units := units?_ofQuotient held (decide (value < 0))
  rw [signed_mul_natCast (sign_natAbs value)] at units
  refine ⟨_, ?_, units⟩
  unfold ofInt?
  exact finite?_of_units units

/-- An integer of at most 53 bits is converted exactly. -/
theorem ofInt?_exact {value : Int} (short : value.natAbs < 2 ^ 53) :
    ∃ x, ofInt? value = some x ∧ x.units? = some (value * unitsPerOne) :=
  ofInt?_held (held_integer short)

end Binary64

namespace Number

open Binary64

theorem units?_half : half.units? = some (unitsPerHalf : Int) := by decide +kernel

/-- An integer is converted unless that would be infinite. -/
theorem toBinary64_int {value : Int} {x : Binary64} :
    (int value).toBinary64 = .ok x ↔ ofInt? value = some x := by
  have carried : ∀ outcome : Option Binary64,
      outcome.elim (.error Fault.integerTooLarge) Except.ok = .ok x ↔ outcome = some x := by
    intro outcome
    cases outcome with
    | none =>
        constructor <;> intro impossible <;> cases impossible
    | some y =>
        constructor
        · intro given
          exact congrArg some (Except.ok.inj given)
        · intro given
          exact congrArg Except.ok (Option.some.inj given)
  unfold toBinary64
  dsimp only
  exact carried (ofInt? value)

/-- An integer is twice as many halves. -/
theorem units_integer (value : Int) : value * unitsPerOne = 2 * value * unitsPerHalf := by
  rw [unitsPerOne_eq, Int.natCast_mul, Int.cast_ofNat_Int, ← Int.mul_assoc, Int.mul_comm value]

/-- A count of halves is rounded half up to the half of the next count. -/
theorem roundHalfUp_of_halves {x : Binary64} {halves : Int}
    (counted : x.units? = some (halves * unitsPerHalf)) (short : halves.natAbs + 1 < 2 ^ 53) :
    roundHalfUp (float x) = .ok ((halves + 1) / 2) := by
  have sum : halves * unitsPerHalf + (unitsPerHalf : Int) = (halves + 1) * unitsPerHalf := by
    rw [Int.add_mul, Int.one_mul]
  have held : Held (halves * unitsPerHalf + (unitsPerHalf : Int)).natAbs := by
    rw [sum, Int.natAbs_mul, Int.natAbs_natCast]
    exact held_half (by omega)
  have raised := units?_add counted units?_half held
  have below : ((halves + 1) * unitsPerHalf).fdiv unitsPerOne = (halves + 1) / 2 := by
    have positive : (0 : Int) < unitsPerHalf := Int.natCast_pos.mpr unitsPerHalf_pos
    rw [unitsPerOne_eq, Int.natCast_mul, Int.cast_ofNat_Int,
      Int.fdiv_eq_ediv_of_nonneg _ (by omega), Int.mul_ediv_mul_of_pos_left _ _ positive]
  change floorInteger (x.add half) = _
  unfold floorInteger Binary64.floor?
  rw [raised, Option.map_some, sum, below]

/-- Rounding half up recovers an integer from its conversion. -/
theorem roundHalfUp_ofInt? {value : Int} {x : Binary64} (converted : ofInt? value = some x)
    (short : value.natAbs < 2 ^ 51) : roundHalfUp (float x) = .ok value := by
  rcases ofInt?_exact (Nat.lt_trans short (by decide)) with ⟨y, same, units⟩
  rw [Option.some.inj (same.symm.trans converted), units_integer] at units
  rw [roundHalfUp_of_halves units (by omega)]
  exact congrArg Except.ok (by omega)

/-- An integer is left alone by rounding. -/
theorem roundHalfUp_int {value : Int} (short : value.natAbs < 2 ^ 51) :
    roundHalfUp (int value) = .ok value := by
  rcases ofInt?_exact (Nat.lt_trans short (by decide)) with ⟨x, converted, _⟩
  have rounded := roundHalfUp_ofInt? converted short
  unfold roundHalfUp at rounded ⊢
  rw [toBinary64_int.mpr converted]
  exact rounded

/-- A finite quotient of integers is the rounded quotient of their sizes. -/
theorem div_int {left right : Number} {a b : Int} {x : Binary64} (isLeft : left = int a)
    (isRight : right = int b)
    (rounded : ofQuotient (decide (a < 0) != decide (b < 0)) (a.natAbs * unitsPerOne) b.natAbs = x)
    (finite : x.isFinite = true) : left.div right = .ok (float x) := by
  fun_cases div left right with
  | case1 dividend divisor negative magnitude same =>
      cases isLeft
      cases isRight
      rw [← rounded, same]
  | case2 dividend divisor beyond =>
      cases isLeft
      cases isRight
      cases x with
      | finite negative magnitude => exact absurd rounded (beyond negative magnitude)
      | infinite _ => cases finite
      | nan => cases finite
  | case3 _ _ other => exact absurd isRight (other a b isLeft)

/-- A quotient of natural numbers that is one itself is exact. -/
theorem div_int_of_mul {quotient divisor : Nat} (short : quotient < 2 ^ 53)
    (positive : 0 < divisor) :
    ∃ x, ofInt? quotient = some x ∧
      (int (quotient * divisor : Nat)).div (int divisor) = .ok (float x) := by
  have narrow : (quotient : Int).natAbs < 2 ^ 53 := by omega
  rcases ofInt?_exact narrow with ⟨x, converted, _⟩
  have rounded := converted
  unfold ofInt? at rounded
  rw [Int.natAbs_natCast] at rounded
  rcases finite?_eq_some.mp rounded with ⟨same, finite⟩
  have signs : (decide (((quotient * divisor : Nat) : Int) < 0) != decide ((divisor : Int) < 0)) =
      decide ((quotient : Int) < 0) := by
    rw [decide_eq_false (by omega), decide_eq_false (by omega), decide_eq_false (by omega)]
    rfl
  rw [same] at finite
  refine ⟨x, converted, div_int rfl rfl ?_ finite⟩
  rw [signs, Int.natAbs_natCast, Int.natAbs_natCast, Nat.mul_right_comm,
    ofQuotient_mul _ _ positive, same]

/-- An integer and its conversion stand in one place. -/
theorem same_ofInt? {value : Int} {x : Binary64} (converted : ofInt? value = some x)
    (short : value.natAbs < 2 ^ 53) : (float x).same (int value) = true := by
  rcases ofInt?_exact short with ⟨y, found, units⟩
  cases Option.some.inj (found.symm.trans converted)
  cases x with
  | finite negative magnitude => exact decide_eq_true (Option.some.inj units)
  | infinite _ => cases units
  | nan => cases units

end Number

end TestSignal
