import TestSignal.Proofs.Number.Between
import TestSignal.Proofs.Number.Order

namespace TestSignal

/-!
# The negative zero

Both zeros have the same value, so no comparison tells them apart: the negative zero is not less
than zero.  Only its sign is that of a negative number.  For every other number the sign and the
comparison with zero agree.

A product rounds to the negative zero when it is too small for the format.  A factor of one or
more makes nothing smaller, and then the negative zero comes from the negative zero alone.
-/

namespace Binary64

def negativeZero : Binary64 := .finite true ⟨0, by decide⟩

/-! ## Products -/

theorem unitsOfMagnitude_pos {magnitude : Nat} (nonzero : magnitude ≠ 0) :
    0 < unitsOfMagnitude magnitude := by
  have one : unitsOfMagnitude 1 = 1 := by decide
  rw [Nat.lt_iff_add_one_le, Nat.zero_add, ← one]
  exact unitsOfMagnitude_mono (Nat.one_le_iff_ne_zero.mpr nonzero)

/-- A quotient that is finite has the sign that was asked for, and the nearest magnitude. -/
theorem eq_of_ofQuotient {negative sign : Bool} {numerator denominator : Nat}
    {magnitude : Fin magnitudeCount}
    (rounded : ofQuotient negative numerator denominator = finite sign magnitude) :
    sign = negative ∧ magnitude.val = nearestMagnitude numerator denominator := by
  unfold ofQuotient at rounded
  split at rounded
  · cases rounded
    exact ⟨rfl, rfl⟩
  · cases rounded

/-- A number with a positive count of units has no sign. -/
theorem exists_finite_of_pos {x : Binary64} {units : Nat} (counted : x.units? = some (units : Int))
    (positive : 0 < units) :
    ∃ magnitude, x = finite false magnitude ∧ unitsOfMagnitude magnitude.val = units := by
  cases x with
  | finite negative magnitude =>
      have signed := Option.some.inj counted
      cases negative with
      | false => exact ⟨magnitude, rfl, Int.ofNat_inj.mp signed⟩
      | true =>
          rw [if_pos rfl] at signed
          omega
  | infinite _ => cases counted
  | nan => cases counted

/-- A whole number of times the negative zero is the negative zero, and of no other number. -/
theorem mul_eq_negativeZero_iff {factor : Binary64} {count : Nat} (positive : 0 < count)
    (counted : factor.units? = some ((count * unitsPerOne : Nat) : Int)) (x : Binary64) :
    x.mul factor = negativeZero ↔ x = negativeZero := by
  rcases exists_finite_of_pos counted (Nat.mul_pos positive unitsPerOne_pos) with
    ⟨times, rfl, size⟩
  cases x with
  | nan => exact ⟨nofun, nofun⟩
  | infinite negative =>
      have infinite : (Binary64.infinite negative).mul (finite false times) ≠ negativeZero := by
        unfold mul
        dsimp only
        split <;> exact nofun
      exact ⟨fun product => absurd product infinite, nofun⟩
  | finite negative magnitude =>
      have product : (finite negative magnitude).mul (finite false times) =
          ofQuotient negative (unitsOfMagnitude magnitude.val * count) 1 := by
        unfold mul
        dsimp only
        rw [size, ← Nat.mul_assoc, ofQuotient_mul _ _ unitsPerOne_pos, Bool.bne_false]
      rw [product]
      constructor
      · intro rounded
        rcases eq_of_ofQuotient rounded with ⟨sign, nearest⟩
        have zero : magnitude.val = 0 := by
          by_contra nonzero
          have atLeast : unitsOfMagnitude 1 * 1 ≤ unitsOfMagnitude magnitude.val * count :=
            Nat.mul_pos (unitsOfMagnitude_pos nonzero) positive
          have rounds := le_nearestMagnitude Nat.one_pos atLeast
          rw [← nearest] at rounds
          exact absurd rounds (by decide)
        rw [← sign]
        exact congrArg (finite true) (Fin.ext zero)
      · intro same
        cases same
        rw [show unitsOfMagnitude (⟨0, _⟩ : Fin magnitudeCount).val = 0 from rfl, Nat.zero_mul]
        decide +kernel

end Binary64

namespace Number

open Binary64

def negativeZero : Number := .float Binary64.negativeZero

/-- A number is not less than zero when it has no sign, and when it is the negative zero. -/
theorem zero_le_iff {number : Number} {negative : Bool} {magnitude : Fin magnitudeCount}
    (converted : number.toBinary64 = .ok (finite negative magnitude)) :
    (0 : Number).le number = true ↔ negative = false ∨ number = negativeZero := by
  cases number with
  | int whole =>
      have kept := toBinary64_int.mp converted
      have sign : negative = decide (whole < 0) :=
        (eq_of_ofQuotient (finite?_eq_some.mp kept).1).1
      have compared : (0 : Number).le (int whole) = true ↔ 0 ≤ whole :=
        (le_iff_of_place rfl rfl).trans
          (Int.mul_le_mul_right (Int.natCast_pos.mpr unitsPerOne_pos))
      rw [compared, sign, decide_eq_false_iff_not, Int.not_lt]
      exact ⟨.inl, fun either => either.resolve_right nofun⟩
  | float x =>
      cases converted
      rw [le_iff_of_place (a := 0 * unitsPerOne) rfl rfl, Int.zero_mul]
      cases negative with
      | false =>
          exact ⟨fun _ => .inl rfl, fun _ => Int.natCast_nonneg _⟩
      | true =>
          rw [if_pos rfl]
          constructor
          · intro above
            right
            have zero : magnitude.val = 0 := by
              by_contra nonzero
              have positive := unitsOfMagnitude_pos nonzero
              omega
            exact congrArg (fun m => float (finite true m)) (Fin.ext zero)
          · rintro (impossible | same)
            · cases impossible
            · cases same
              exact Int.le_refl 0

end Number

end TestSignal
