import TestSignal.Number.Basic

namespace TestSignal

open Binary64

namespace Number

/-!
# Numbers of equal value

Comparisons look at where a number stands on the line and at nothing else.  Numbers of
equal value stand in one place, so each may take the other's part in a comparison,
also when one is an integer and the other is not.

Integers are compared as integers are, and a number is zero when it stands where zero does.
-/

theorem place_of_same {x y : Number} (equal : x.same y = true) : x.place = y.place := by
  unfold same at equal
  split at equal
  · rename_i left right
    rw [left, right, of_decide_eq_true equal]
  · rename_i left right
    rw [left, right]
  · rename_i left right
    rw [left, right]
  · exact absurd equal Bool.false_ne_true

/-- A finite number stands where its units are. -/
theorem place_float_iff {x : Binary64} {units : Int} :
    (float x).place = .at units ↔ x.units? = some units := by
  cases x with
  | finite negative magnitude =>
      exact ⟨fun placed => congrArg some (Place.at.inj placed),
        fun counted => congrArg Place.at (Option.some.inj counted)⟩
  | infinite negative => cases negative <;> exact ⟨nofun, nofun⟩
  | nan => exact ⟨nofun, nofun⟩

theorem le_congr_left {x y : Number} (equal : x.same y = true) (z : Number) :
    x.le z = y.le z := by
  unfold le lt same
  rw [place_of_same equal]

theorem le_congr_right {x y : Number} (equal : x.same y = true) (z : Number) :
    z.le x = z.le y := by
  unfold le lt same
  rw [place_of_same equal]

theorem lt_congr_left {x y : Number} (placed : x.place = y.place) (z : Number) :
    x.lt z = y.lt z := by
  unfold lt
  rw [placed]

theorem lt_congr_right {x y : Number} (placed : x.place = y.place) (z : Number) :
    z.lt x = z.lt y := by
  unfold lt
  rw [placed]

theorem same_congr_left {x y : Number} (placed : x.place = y.place) (z : Number) :
    x.same z = y.same z := by
  unfold same
  rw [placed]

/-- Two numbers that stand on the line are compared as their units are. -/
theorem le_iff_of_place {x y : Number} {a b : Int} (left : x.place = .at a)
    (right : y.place = .at b) : x.le y = true ↔ a ≤ b := by
  unfold le lt same
  rw [left, right]
  simp only [Bool.or_eq_true, decide_eq_true_iff]
  omega

theorem le_of_lt {x y : Number} (less : x.lt y = true) : x.le y = true := by
  unfold le
  rw [less]
  rfl

/-- Only an undefined number differs from itself. -/
theorem same_float {x : Binary64} (finite : x.isFinite = true) :
    (float x).same (float x) = true := by
  cases x with
  | finite negative magnitude => exact decide_eq_true rfl
  | infinite _ => cases finite
  | nan => cases finite

theorem max_cases (x y : Number) : max x y = x ∨ max x y = y := by
  unfold max
  split
  · exact .inr rfl
  · exact .inl rfl

theorem min_cases (x y : Number) : min x y = x ∨ min x y = y := by
  unfold min
  split
  · exact .inr rfl
  · exact .inl rfl

/-- A number that is brought between two bounds is itself or a bound. -/
theorem clamp_cases (value low high : Number) :
    clamp value low high = value ∨ clamp value low high = low ∨ clamp value low high = high := by
  unfold clamp
  rcases max_cases low (min high value) with lowest | inner
  · exact .inr (.inl lowest)
  · rw [inner]
    rcases min_cases high value with highest | same
    · exact .inr (.inr highest)
    · exact .inl same

/-! ## Zero -/

/-- A number above zero is not zero. -/
theorem isZero_of_pos {x : Number} (positive : (0 : Number).lt x = true) : x.isZero = false := by
  have zero : (0 : Number).place = .at 0 := by
    change Place.at (0 * unitsPerOne) = .at 0
    rw [Int.zero_mul]
  unfold isZero same
  unfold lt at positive
  rw [zero] at positive ⊢
  cases place : x.place with
  | «at» units =>
      rw [place] at positive
      have above := of_decide_eq_true positive
      exact decide_eq_false (by omega)
  | below | above | nowhere => rfl

theorem isZero_finite (negative : Bool) (magnitude : Fin magnitudeCount) :
    (float (finite negative magnitude)).isZero = decide (unitsOfMagnitude magnitude.val = 0) := by
  change decide ((if negative then -(unitsOfMagnitude magnitude.val : Int)
    else unitsOfMagnitude magnitude.val) = 0 * (unitsPerOne : Int)) = _
  rw [Int.zero_mul]
  apply decide_eq_decide.mpr
  cases negative <;> simp

/-! ## Integers -/

theorem lt_int (a b : Int) : (int a).lt (int b) = decide (a < b) := by
  unfold lt place
  dsimp only
  refine decide_eq_decide.mpr ?_
  exact Int.mul_lt_mul_right (Int.natCast_pos.mpr Binary64.unitsPerOne_pos)

theorem le_int (a b : Int) : (int a).le (int b) = decide (a ≤ b) := by
  unfold le same place
  rw [lt_int]
  have positive : (unitsPerOne : Int) ≠ 0 := Int.natCast_ne_zero.mpr (Nat.ne_of_gt unitsPerOne_pos)
  have equal : decide (a * unitsPerOne = b * unitsPerOne) = decide (a = b) :=
    decide_eq_decide.mpr (Int.mul_eq_mul_right_iff positive)
  dsimp only
  rw [equal, ← Bool.decide_or]
  exact decide_eq_decide.mpr (by omega)

theorem isZero_int (value : Int) : (int value).isZero = decide (value = 0) := by
  have positive : (unitsPerOne : Int) ≠ 0 := Int.natCast_ne_zero.mpr (Nat.ne_of_gt unitsPerOne_pos)
  exact decide_eq_decide.mpr (Int.mul_eq_mul_right_iff positive)

theorem max_one_int {value : Int} (positive : 0 < value) :
    Number.max 1 (int value) = int value := by
  have one : (1 : Number) = int 1 := rfl
  unfold Number.max
  rw [one, lt_int]
  split
  case isTrue => rfl
  case isFalse notLess =>
    rw [decide_eq_true_iff] at notLess
    rw [show value = 1 by omega]

end Number

end TestSignal
