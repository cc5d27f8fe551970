import TestSignal.Proofs.Expr.Value
import TestSignal.Proofs.Number.Bounds

namespace TestSignal

/-!
# Finite results

A result that is finite was made of finite numbers: a sum has no infinite term, and a number
over a positive integer is as finite as the number itself.  An integer may be too large for
binary64 and still have a finite quotient, so of integers nothing is asked.

An integer that binary64 holds is written as itself, with however many places.
-/

open Binary64 Outcome

/-! ## Quotients and sums -/

namespace Binary64

/-- A number over a positive integer is within as much as the number is within so many times. -/
theorem Within.div {bound divisor : Nat} {x b : Binary64} (positive : 0 < divisor)
    (counted : b.units? = some ((divisor : Int) * unitsPerOne))
    (within : Within (bound * divisor) x) (held : Held bound) : Within bound (x.div b) := by
  have some : (divisor : Int) ≠ 0 := Int.natCast_ne_zero.mpr (Nat.ne_of_gt positive)
  rcases exists_finite_of_units unitsPerOne_pos counted some with ⟨magnitude, rfl, size⟩
  rw [Int.natAbs_natCast] at size
  have nonzero : magnitude.val ≠ 0 := by
    intro zero
    have none : unitsOfMagnitude 0 = 0 := by decide
    rw [zero, none] at size
    exact absurd size.symm (Nat.ne_of_gt (Nat.mul_pos positive unitsPerOne_pos))
  cases x with
  | infinite _ => cases within.isFinite
  | nan => cases within.isFinite
  | finite negative magnitude' =>
      rw [div_finite _ _ _ _ nonzero, size]
      refine within_ofQuotient held (Nat.mul_pos positive unitsPerOne_pos) ?_ _
      rw [← Nat.mul_assoc]
      exact Nat.mul_le_mul_right _ (within_finite.mp within)

/-- A number over a positive integer is finite when the number is. -/
theorem isFinite_div {x b : Binary64} {divisor : Nat} (positive : 0 < divisor)
    (counted : b.units? = some ((divisor : Int) * unitsPerOne)) :
    (x.div b).isFinite = x.isFinite := by
  cases finite : x.isFinite with
  | true =>
      rcases within_of_isFinite finite with ⟨units, unitsOf, bounded⟩
      have wide : Within (greatestUnits * divisor) x :=
        ⟨units, unitsOf, Nat.le_trans bounded (Nat.le_mul_of_pos_right _ positive)⟩
      exact (wide.div positive counted held_greatestUnits).isFinite
  | false =>
      have some : (divisor : Int) ≠ 0 := Int.natCast_ne_zero.mpr (Nat.ne_of_gt positive)
      rcases exists_finite_of_units unitsPerOne_pos counted some with ⟨magnitude, rfl, _⟩
      cases x with
      | infinite _ => rfl
      | nan => rfl
      | finite _ _ => cases finite

/-- A finite sum has finite terms. -/
theorem isFinite_of_add {x y : Binary64} (sum : (x.add y).isFinite = true) :
    x.isFinite = true ∧ y.isFinite = true := by
  cases x with
  | nan => cases sum
  | finite _ _ =>
      cases y with
      | finite _ _ => exact ⟨rfl, rfl⟩
      | infinite _ => cases sum
      | nan => cases sum
  | infinite left =>
      cases y with
      | finite _ _ => cases sum
      | nan => cases sum
      | infinite right =>
          change (if left = right then infinite left else nan).isFinite = true at sum
          split at sum <;> cases sum

end Binary64

namespace Number

/-- An integer of any size, or a finite number. -/
def Bounded (x : Number) : Prop := ∀ value, x = float value → value.isFinite = true

theorem bounded_float {value : Binary64} : (float value).Bounded ↔ value.isFinite = true :=
  ⟨fun bounded => bounded value rfl, by rintro finite _ ⟨⟩; exact finite⟩

theorem exists_of_div_int {left right quotient : Number} {a b : Int} (isLeft : left = int a)
    (isRight : right = int b) (divided : left.div right = .ok quotient) :
    ∃ value, quotient = float value ∧ value.isFinite = true := by
  revert divided
  fun_cases div left right with
  | case1 dividend divisor negative magnitude same =>
      intro divided
      exact ⟨_, (Except.ok.inj divided).symm, rfl⟩
  | case2 =>
      intro impossible
      cases impossible
  | case3 _ _ other => exact absurd isRight (other a b isLeft)

/-- A quotient by a positive integer is finite when the dividend is an integer or finite. -/
theorem exists_of_div {x quotient : Number} (divisor : Nat) (positive : 0 < divisor)
    (short : divisor < 2 ^ 53) (divided : x.div (int divisor) = .ok quotient) :
    ∃ value, quotient = float value ∧ (value.isFinite = true ↔ x.Bounded) := by
  cases x with
  | int whole =>
      have bounded : (int whole).Bounded := nofun
      rcases exists_of_div_int rfl rfl divided with ⟨value, same, finite⟩
      exact ⟨value, same, iff_of_true finite bounded⟩
  | float value =>
      rcases ofInt?_exact (show (divisor : Int).natAbs < 2 ^ 53 by omega) with
        ⟨b, converted, counted⟩
      rw [float_div value (toBinary64_int.mpr converted)] at divided
      refine ⟨_, (Except.ok.inj divided).symm, ?_⟩
      rw [isFinite_div positive counted, bounded_float]

/-- A sum that is an integer or finite is one of such terms. -/
theorem bounded_of_add {x y sum : Number} (added : x.add y = .ok sum) (bounded : sum.Bounded) :
    x.Bounded ∧ y.Bounded := by
  have finite (a b : Binary64) (same : sum = float (a.add b)) :=
    isFinite_of_add (bounded _ same)
  cases x with
  | int a =>
      refine ⟨nofun, ?_⟩
      cases y with
      | int b => nofun
      | float b =>
          rcases bind_ok.mp added with ⟨a', _, added⟩
          exact bounded_float.mpr (finite a' b (pure_ok.mp added).symm).2
  | float a =>
      cases y with
      | int b =>
          rcases bind_ok.mp added with ⟨_, converted, added⟩
          cases converted
          rcases bind_ok.mp added with ⟨b', _, added⟩
          exact ⟨bounded_float.mpr (finite a b' (pure_ok.mp added).symm).1, nofun⟩
      | float b =>
          have parts := finite a b (Except.ok.inj added).symm
          exact ⟨bounded_float.mpr parts.1, bounded_float.mpr parts.2⟩

end Number

namespace Binary64

/-! ## Integers in fixed places -/

theorem value_of_size {negative : Bool} {size : Nat} {value : Int} (places : Nat)
    (signed : (if negative then -(size : Int) else size) = value) :
    ({ negative, units := size * 10 ^ places, places } : FixedDecimal).value = value := by
  have power : (10 : ℚ) ^ places ≠ 0 := by positivity
  unfold FixedDecimal.value
  dsimp only
  rw [Nat.cast_mul, Nat.cast_pow, Nat.cast_ofNat, mul_div_cancel_right₀ _ power, ← signed]
  cases negative <;> simp

/-- A number is written with fixed places within an integer that it is within. -/
theorem exists_toFixed?_of_within {x : Binary64} {bound : Nat}
    (within : Within (bound * unitsPerOne) x) (places : Nat) :
    ∃ d : FixedDecimal, x.toFixed? places = some d ∧ d.places = places ∧ |d.value| ≤ bound := by
  cases x with
  | infinite _ => cases within.isFinite
  | nan => cases within.isFinite
  | finite negative magnitude =>
      refine ⟨_, rfl, rfl, ?_⟩
      have scaled : unitsOfMagnitude magnitude.val * 10 ^ places ≤
          bound * 10 ^ places * unitsPerOne := by
        rw [Nat.mul_right_comm]
        exact Nat.mul_le_mul_right _ (within_finite.mp within)
      have few := Nat.cast_le (α := ℚ).mpr (Rounding.nearestEven_le unitsPerOne_pos scaled)
      rw [Nat.cast_mul, Nat.cast_pow, Nat.cast_ofNat] at few
      rw [FixedDecimal.abs_value]
      dsimp only
      rw [Nat.pow_eq, div_le_iff₀ (by positivity)]
      exact few

/-- A number that is an integer has its value when it is written with fixed places. -/
theorem exists_toFixed?_of_units {x : Binary64} {value : Int}
    (counted : x.units? = some (value * unitsPerOne)) (places : Nat) :
    ∃ d : FixedDecimal, x.toFixed? places = some d ∧ d.places = places ∧ d.value = value := by
  cases x with
  | infinite _ => cases counted
  | nan => cases counted
  | finite negative magnitude =>
      rcases size_of_units unitsPerOne_pos (Option.some.inj counted) with ⟨size, signed⟩
      refine ⟨{ negative, units := value.natAbs * 10 ^ places, places }, ?_, rfl,
        value_of_size places signed⟩
      unfold toFixed?
      dsimp only
      rw [size, Nat.mul_right_comm, Rounding.nearestEven_mul _ _ unitsPerOne_pos, Nat.pow_eq]

end Binary64

/-- An expression shows such a number as a decimal with its value. -/
theorem Expr.exists_fixed_of_units {x : Binary64} {value : Int}
    (counted : x.units? = some (value * unitsPerOne)) (places : Nat) :
    ∃ d : FixedDecimal, Expr.fixed places x = .numeral (.fixed d) ∧ d.places = places ∧
      d.value = value := by
  rcases exists_toFixed?_of_units counted places with ⟨d, fixed, placed, same⟩
  refine ⟨d, ?_, placed, same⟩
  unfold Expr.fixed
  rw [fixed]

/-- An expression shows a number within an integer as a decimal within it. -/
theorem Expr.exists_fixed_of_within {x : Binary64} {bound : Nat}
    (within : Within (bound * unitsPerOne) x) (places : Nat) :
    ∃ d : FixedDecimal, Expr.fixed places x = .numeral (.fixed d) ∧ d.places = places ∧
      |d.value| ≤ bound := by
  rcases exists_toFixed?_of_within within places with ⟨d, fixed, placed, small⟩
  refine ⟨d, ?_, placed, small⟩
  unfold Expr.fixed
  rw [fixed]

end TestSignal
