import TestSignal.Proofs.Number.Bounds
import TestSignal.Proofs.Number.Order

namespace TestSignal

/-!
# Halves

Half of an integer, its distance from an integer and an integer multiple of that distance
are counts of halves.  Binary64 holds a count of halves of up to 53 bits, so none of these
steps rounds, and a count of halves is compared with an integer as integers are.
-/

namespace Binary64

/-- The sign of a product comes from the signs of its factors. -/
theorem signed_mul {left right : Bool} {size size' : Nat} {a b : Int}
    (first : (if left then -(size : Int) else size) = a)
    (second : (if right then -(size' : Int) else size') = b) :
    (if left != right then -((size * size' : Nat) : Int) else (size * size' : Nat)) = a * b := by
  rw [← first, ← second, Int.natCast_mul]
  cases left with
  | false =>
      cases right with
      | false => rfl
      | true => exact (Int.mul_neg _ _).symm
  | true =>
      cases right with
      | false => exact (Int.neg_mul _ _).symm
      | true => exact (Int.neg_mul_neg _ _).symm

/-- A product with an integer is exact when the format holds it. -/
theorem units?_mul {x y : Binary64} {a b : Int} {unit : Nat} (positive : 0 < unit)
    (left : x.units? = some (a * unit)) (right : y.units? = some (b * unitsPerOne))
    (held : Held ((a * b).natAbs * unit)) : (x.mul y).units? = some (a * b * unit) := by
  cases x with
  | infinite _ => cases left
  | nan => cases left
  | finite negative magnitude =>
      cases y with
      | infinite _ => cases right
      | nan => cases right
      | finite negative' magnitude' =>
          rcases size_of_units positive (Option.some.inj left) with ⟨size, sign⟩
          rcases size_of_units unitsPerOne_pos (Option.some.inj right) with ⟨size', sign'⟩
          have signed := signed_mul sign sign'
          rw [← Int.natAbs_mul] at signed
          have whole : a.natAbs * unit * (b.natAbs * unitsPerOne) =
              (a * b).natAbs * unit * unitsPerOne := by
            rw [Nat.mul_mul_mul_comm, ← Nat.mul_assoc, Int.natAbs_mul]
          change (ofQuotient (negative != negative')
            (unitsOfMagnitude magnitude.val * unitsOfMagnitude magnitude'.val)
            unitsPerOne).units? = _
          rw [size, size', whole, ofQuotient_mul _ _ unitsPerOne_pos, units?_ofQuotient held,
            signed_mul_natCast signed]

end Binary64

namespace Number

open Binary64

/-! ## Steps on halves -/

/-- Half of an integer is as many halves. -/
theorem exists_div_two {value : Int} (short : value.natAbs < 2 ^ 53) :
    ∃ x, (int value).div 2 = .ok (float x) ∧ x.units? = some (value * unitsPerHalf) := by
  have counted := units?_ofQuotient (held_half short) (decide (value < 0))
  rw [signed_mul_natCast (sign_natAbs value)] at counted
  have even : value.natAbs * unitsPerOne = value.natAbs * unitsPerHalf * 2 := by
    rw [unitsPerOne_eq, Nat.mul_comm 2, Nat.mul_assoc]
  refine ⟨_, div_int rfl rfl ?_ (finite?_eq_some.mp (finite?_of_units counted)).2, counted⟩
  rw [even]
  change ofQuotient (decide (value < 0) != false) _ 2 = _
  rw [Bool.bne_false, ofQuotient_mul _ _ (by decide)]

/-- An integer without some halves is twice as many halves without them. -/
theorem exists_int_sub {value halves : Int} {x : Binary64}
    (counted : x.units? = some (halves * unitsPerHalf)) (short : value.natAbs < 2 ^ 53)
    (narrow : (2 * value - halves).natAbs < 2 ^ 53) :
    ∃ y, (int value).sub (float x) = .ok (float y) ∧
      y.units? = some ((2 * value - halves) * unitsPerHalf) := by
  rcases ofInt?_exact short with ⟨whole, converted, units⟩
  rw [units_integer] at units
  have difference : 2 * value * unitsPerHalf - halves * unitsPerHalf =
      (2 * value - halves) * unitsPerHalf := (Int.sub_mul ..).symm
  have held : Held (2 * value * unitsPerHalf - halves * unitsPerHalf).natAbs := by
    rw [difference, Int.natAbs_mul, Int.natAbs_natCast]
    exact held_half narrow
  refine ⟨whole.sub x, ?_, (units?_sub units counted held).trans (congrArg some difference)⟩
  exact Outcome.bind_ok.mpr ⟨whole, toBinary64_int.mpr converted, rfl⟩

/-- Some halves, an integer number of times, are that many times as many halves. -/
theorem exists_mul_int {halves value : Int} {x : Binary64}
    (counted : x.units? = some (halves * unitsPerHalf)) (short : value.natAbs < 2 ^ 53)
    (narrow : (halves * value).natAbs < 2 ^ 53) :
    ∃ y, (float x).mul (int value) = .ok (float y) ∧
      y.units? = some (halves * value * unitsPerHalf) := by
  rcases ofInt?_exact short with ⟨whole, converted, units⟩
  exact ⟨x.mul whole, float_mul x (toBinary64_int.mpr converted),
    units?_mul unitsPerHalf_pos counted units (held_half narrow)⟩

/-! ## Comparison -/

theorem lt_of_place {x y : Number} {a b : Int} (left : x.place = .at (a * unitsPerHalf))
    (right : y.place = .at (b * unitsPerHalf)) : x.lt y = decide (a < b) := by
  unfold lt
  rw [left, right]
  refine decide_eq_decide.mpr ?_
  exact Int.mul_lt_mul_right (Int.natCast_pos.mpr unitsPerHalf_pos)

theorem place_int (value : Int) : (int value).place = .at (2 * value * unitsPerHalf) :=
  congrArg Place.at (units_integer value)

theorem int_lt_halves {value halves : Int} {x : Binary64}
    (counted : x.units? = some (halves * unitsPerHalf)) :
    (int value).lt (float x) = decide (2 * value < halves) :=
  lt_of_place (place_int value) (place_float_iff.mpr counted)

theorem halves_lt_int {value halves : Int} {x : Binary64}
    (counted : x.units? = some (halves * unitsPerHalf)) :
    (float x).lt (int value) = decide (halves < 2 * value) :=
  lt_of_place (place_float_iff.mpr counted) (place_int value)

end Number

end TestSignal
