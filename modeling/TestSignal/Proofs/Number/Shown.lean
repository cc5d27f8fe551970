import TestSignal.Proofs.Expr.Reading
import TestSignal.Proofs.Number.Shortest

namespace TestSignal

/-!
# Numbers read back from what is shown

A number that is shown is read back from its text: as digits, and perhaps a point and places
after it, and a minus sign in front.  A text with places has the value that it was written for,
and the only signs in it are those of the number.
-/

open Binary64

namespace Numeral

/-- The value of a number's text. -/
def textValue? (text : List Char) : Option ℚ := (read? text).bind value?

def sign (negative : Bool) : List Char := if negative then ['-'] else []

/-- A text that is read as a size with a sign, and has a minus sign for it at most. -/
structure Shows (text : List Char) (negative : Bool) (size : ℚ) : Prop where
  value : textValue? text = some (signed negative size)
  minus : '-' ∈ text ↔ negative = true
  plus : '+' ∉ text

/-- A sign is not hidden by digits and points. -/
theorem Shows.of_sign {negative : Bool} {size : ℚ} {body : List Char}
    (read : textValue? (sign negative ++ body) = some (signed negative size))
    (plain : ∀ c ∈ body, c.isDigit = true ∨ c = '.') :
    Shows (sign negative ++ body) negative size := by
  have free {c : Char} (other : c.isDigit = false) (notPoint : c ≠ '.') : c ∉ body := by
    intro member
    rcases plain c member with digit | point
    · rw [digit] at other
      cases other
    · exact notPoint point
  have minus : '-' ∉ body := free rfl (by decide)
  have plus : '+' ∉ body := free rfl (by decide)
  refine ⟨read, ?_, ?_⟩ <;> cases negative <;> simp [sign, minus, plus]

section Sizes

variable {whole : List Char} (digits : ∀ c ∈ whole, c.isDigit = true) (nonempty : whole ≠ [])
include digits nonempty

theorem read?_sign (negative : Bool) (rest : List Char) :
    read? (sign negative ++ (whole ++ rest)) = ofSize? negative (whole ++ rest) := by
  cases negative
  · exact read?_unsigned digits nonempty rest
  · rfl

theorem shows_whole (negative : Bool) :
    Shows (sign negative ++ whole) negative (Nat.ofDigitChars 10 whole 0) := by
  refine .of_sign ?_ fun c member => .inl (digits c member)
  have read := read?_sign digits nonempty negative []
  rw [List.append_nil] at read
  unfold textValue?
  rw [read, ofSize?_whole digits nonempty]
  cases negative
  · exact congrArg some (Int.cast_natCast _)
  · exact congrArg some ((Int.cast_neg _).trans (congrArg Neg.neg (Int.cast_natCast _)))

theorem shows_places (negative : Bool) {places : List Char}
    (placeDigits : ∀ c ∈ places, c.isDigit = true) (placed : places ≠ []) :
    Shows (sign negative ++ (whole ++ '.' :: places)) negative
      (Nat.ofDigitChars 10 (whole ++ places) 0 / 10 ^ places.length) := by
  refine .of_sign ?_ ?_
  · unfold textValue?
    rw [read?_sign digits nonempty, ofSize?_places digits nonempty negative placeDigits placed]
    rfl
  · intro c member
    rcases List.mem_append.mp member with first | later
    · exact .inl (digits c first)
    · rcases List.mem_cons.mp later with point | place
      · exact .inr point
      · exact .inl (placeDigits c place)

end Sizes

theorem shows_integer (value : Int) :
    Shows (toString value).toList (decide (value < 0)) value.natAbs := by
  have digits (n : Nat) : ∀ c ∈ Nat.toDigits 10 n, c.isDigit = true :=
    fun c member => Nat.isDigit_of_mem_toDigits (by decide) (by decide) member
  cases value with
  | ofNat n =>
      change Shows n.repr.toList _ _
      have whole := shows_whole (digits n) Nat.toDigits_ne_nil false
      rw [Nat.ofDigitChars_ten_toDigits] at whole
      have unsigned : decide (Int.ofNat n < 0) = false :=
        decide_eq_false (Int.not_lt.mpr (Int.natCast_nonneg n))
      rw [Nat.toList_repr, unsigned]
      exact whole
  | negSucc n =>
      change Shows ("-" ++ (n + 1).repr).toList _ _
      have whole := shows_whole (digits (n + 1)) Nat.toDigits_ne_nil true
      rw [Nat.ofDigitChars_ten_toDigits] at whole
      rw [String.toList_append, Nat.toList_repr, decide_eq_true (Int.negSucc_lt_zero n)]
      exact whole

end Numeral

/-! ## Shortest decimals -/

namespace Decimal

theorem isDigit_of_mem_digits {d : Decimal} : ∀ c ∈ d.digits, c.isDigit = true :=
  fun _ member => Nat.isDigit_of_mem_toDigits (by decide) (by decide) member

theorem isDigit_of_mem_replicate (count : Nat) :
    ∀ c ∈ List.replicate count '0', c.isDigit = true := by
  intro c member
  rw [List.eq_of_mem_replicate member]
  rfl

/-- Digits before a point and behind it that make up a decimal. -/
structure Positions (d : Decimal) (whole places : List Char) : Prop where
  whole_digits : ∀ c ∈ whole, c.isDigit = true
  whole_ne_nil : whole ≠ []
  places_digits : ∀ c ∈ places, c.isDigit = true
  places_ne_nil : places ≠ []
  value_eq : (Nat.ofDigitChars 10 (whole ++ places) 0 : ℚ) / 10 ^ places.length = d.value

section Positions

variable {d : Decimal}

theorem digits_ne_nil : d.digits ≠ [] := Nat.toDigits_ne_nil

theorem ofDigitChars_digits : Nat.ofDigitChars 10 d.digits 0 = d.coefficient :=
  Nat.ofDigitChars_ten_toDigits

theorem value_of_neg_exponent {count : Nat} (opposite : -d.exponent = count) :
    d.value = d.coefficient / 10 ^ count := by
  unfold value
  rw [← neg_neg d.exponent, opposite, zpow_neg, zpow_natCast, div_eq_mul_inv]

/-- All digits stand before the point, with zeros behind them. -/
theorem positions_padded {zeros : Nat} (same : d.exponent = zeros) :
    d.Positions (d.digits ++ List.replicate zeros '0') ['0'] where
  whole_digits := List.forall_mem_append.mpr ⟨isDigit_of_mem_digits, isDigit_of_mem_replicate zeros⟩
  whole_ne_nil := List.append_ne_nil_of_left_ne_nil digits_ne_nil _
  places_digits := isDigit_of_mem_replicate 1
  places_ne_nil := List.cons_ne_nil _ _
  value_eq := by
    have units : Nat.ofDigitChars 10 (d.digits ++ List.replicate zeros '0' ++ ['0']) 0 =
        d.coefficient * 10 ^ zeros * 10 := by
      rw [List.append_assoc, ← List.replicate_succ', Nat.ofDigitChars_append, ofDigitChars_digits,
        Nat.ofDigitChars_replicate_zero, Nat.mul_comm, Nat.pow_succ, Nat.mul_assoc]
    unfold value
    rw [units, same, zpow_natCast, List.length_singleton, pow_one]
    push_cast
    exact mul_div_cancel_right₀ _ (by norm_num)

/-- The point stands between two of the digits. -/
theorem positions_cut {whole places : Nat} (positive : 0 < whole) (placed : 0 < places)
    (length : d.digits.length = whole + places) (opposite : -d.exponent = places) :
    d.Positions (d.digits.take whole) (d.digits.drop whole) where
  whole_digits c member := isDigit_of_mem_digits c (List.mem_of_mem_take member)
  whole_ne_nil := by
    rw [Ne, List.take_eq_nil_iff, not_or]
    exact ⟨Nat.ne_of_gt positive, digits_ne_nil⟩
  places_digits c member := isDigit_of_mem_digits c (List.mem_of_mem_drop member)
  places_ne_nil := by
    rw [Ne, List.drop_eq_nil_iff]
    omega
  value_eq := by
    rw [List.take_append_drop, ofDigitChars_digits, value_of_neg_exponent opposite,
      List.length_drop, length, Nat.add_sub_cancel_left]

/-- All digits stand behind the point, with zeros before them. -/
theorem positions_led {zeros : Nat} (opposite : -d.exponent = (zeros + d.digits.length : Nat)) :
    d.Positions ['0'] (List.replicate zeros '0' ++ d.digits) where
  whole_digits := isDigit_of_mem_replicate 1
  whole_ne_nil := List.cons_ne_nil _ _
  places_digits :=
    List.forall_mem_append.mpr ⟨isDigit_of_mem_replicate zeros, isDigit_of_mem_digits⟩
  places_ne_nil := List.append_ne_nil_of_right_ne_nil _ digits_ne_nil
  value_eq := by
    have units : Nat.ofDigitChars 10 (['0'] ++ (List.replicate zeros '0' ++ d.digits)) 0 =
        d.coefficient := by
      rw [Nat.ofDigitChars_append, Nat.ofDigitChars_append, Nat.ofDigitChars_replicate_zero]
      exact ofDigitChars_digits
    rw [units, value_of_neg_exponent opposite, List.length_append, List.length_replicate]

end Positions

/-- A positional text has digits before and after its point, and they make up the value. -/
theorem exists_positional (d : Decimal) :
    ∃ whole places, d.positional = whole ++ '.' :: places ∧ d.Positions whole places := by
  have longer : 0 < d.digits.length := List.length_pos_of_ne_nil digits_ne_nil
  have leading : d.leading = d.exponent + d.digits.length - 1 := rfl
  unfold positional
  split
  case isTrue nonneg =>
      rcases Int.eq_ofNat_of_zero_le nonneg with ⟨zeros, same⟩
      rw [same, Int.toNat_natCast]
      refine ⟨_, _, ?_, positions_padded same⟩
      simp only [List.append_assoc]
  case isFalse negative =>
      split
      case isTrue inside =>
          rcases Int.eq_ofNat_of_zero_le (show 0 ≤ -d.exponent by omega) with ⟨count, opposite⟩
          exact ⟨_, _, rfl, positions_cut (by omega) (by omega) (by omega) opposite⟩
      case isFalse outside =>
          refine ⟨['0'], _, rfl, positions_led ?_⟩
          omega

/-- The text of a decimal between a ten-thousandth and `10 ^ 16` is positional. -/
theorem toChars_eq_positional {d : Decimal} (least : 1 / 10 ^ 4 ≤ d.value)
    (most : d.value < 10 ^ 16) : d.toChars = d.positional := by
  have some : 0 < d.coefficient := by
    rcases Nat.eq_zero_or_pos d.coefficient with none | positive
    · unfold value at least
      rw [none, Nat.cast_zero, zero_mul] at least
      norm_num at least
    · exact positive
  have count : d.digits.length = digitCount d.coefficient := rfl
  have longer := digitCount_pos d.coefficient
  have step : (0 : ℚ) < 10 ^ d.exponent := zpow_pos (by norm_num) _
  -- The value is at least the power of its first digit, and less than the next power.
  have reached : (10 : ℚ) ^ d.leading ≤ d.value := by
    have exponent : d.leading = d.exponent + ((digitCount d.coefficient - 1 : Nat) : Int) := by
      unfold leading
      omega
    have power : (10 : ℚ) ^ (digitCount d.coefficient - 1) ≤ d.coefficient := by
      exact_mod_cast pow_digitCount_le some
    unfold value
    rw [exponent, zpow_add₀ (by norm_num), zpow_natCast, mul_comm]
    exact mul_le_mul_of_nonneg_right power step.le
  have passed : d.value < 10 ^ (d.leading + 1) := by
    have exponent : d.leading + 1 = d.exponent + (digitCount d.coefficient : Int) := by
      unfold leading
      omega
    have power : (d.coefficient : ℚ) < 10 ^ digitCount d.coefficient := by
      exact_mod_cast lt_pow_digitCount d.coefficient
    unfold value
    rw [exponent, zpow_add₀ (by norm_num), zpow_natCast, mul_comm ((10 : ℚ) ^ d.exponent)]
    exact mul_lt_mul_of_pos_right power step
  have high : d.leading < 16 := by
    rw [← zpow_lt_zpow_iff_right₀ (show (1 : ℚ) < 10 by norm_num)]
    exact reached.trans_lt (most.trans_eq (by norm_num))
  have low : -4 < d.leading + 1 := by
    rw [← zpow_lt_zpow_iff_right₀ (show (1 : ℚ) < 10 by norm_num)]
    exact lt_of_eq_of_lt (by norm_num) (least.trans_lt passed)
  unfold toChars
  exact if_pos (by simp; omega)

end Decimal

namespace Binary64

/-! ## Texts of binary64 numbers -/

theorem integer?_of_eq {x : Binary64} {value : Int} (whole : x.integer? = some value) :
    x.value? = some (value : ℚ) := by
  have one : (unitsPerOne : ℚ) ≠ 0 := Nat.cast_ne_zero.mpr (Nat.ne_of_gt unitsPerOne_pos)
  cases counted : x.units? with
  | none =>
      unfold integer? at whole
      rw [counted] at whole
      cases whole
  | some units =>
      unfold integer? at whole
      rw [counted] at whole
      dsimp only at whole
      split at whole
      case isTrue exact =>
          have same : units = value * unitsPerOne := by
            rw [← Option.some.inj whole]
            exact (Int.fdiv_mul_cancel_of_fmod_eq_zero exact).symm
          rw [value?_of_units counted, same, Int.cast_mul, Int.cast_natCast,
            mul_div_cancel_right₀ _ one]
      case isFalse => cases whole

/-- The short text of a number of usual size is read as a value near the number. -/
theorem exists_textValue?_toShortText (negative : Bool) {magnitude : Fin magnitudeCount}
    (least : 1 / 2000 ≤ (unitsOfMagnitude magnitude.val : ℚ) / unitsPerOne)
    (most : (unitsOfMagnitude magnitude.val : ℚ) / unitsPerOne ≤ 10 ^ 15) :
    ∃ shown, Numeral.textValue? (Number.float (finite negative magnitude)).toShortText.toList =
        some shown ∧
      |shown - signed negative (unitsOfMagnitude magnitude.val / unitsPerOne)| ≤
        (unitsOfMagnitude magnitude.val / unitsPerOne + 1) / 2 ^ 53 := by
  have valued := value?_finite negative magnitude
  have some : 0 < magnitude.val := by
    apply Nat.pos_of_ne_zero
    intro zero
    rw [zero, show unitsOfMagnitude 0 = 0 by decide, Nat.cast_zero, zero_div] at least
    norm_num at least
  have near := abs_shortestDecimal_sub_le some
  generalize (unitsOfMagnitude magnitude.val : ℚ) / unitsPerOne = size at *
  unfold Number.toShortText
  dsimp only
  split
  case h_1 whole found =>
      rw [integer?_of_eq found] at valued
      have read := (Numeral.shows_integer whole).value
      rw [signed_natAbs] at read
      refine ⟨whole, read, ?_⟩
      rw [Option.some.inj valued, sub_self, abs_zero]
      positivity
  case h_2 =>
      have bounds := abs_le.mp near
      have positional := Decimal.toChars_eq_positional
        (show 1 / 10 ^ 4 ≤ (shortestDecimal magnitude.val).value by linarith) (by linarith)
      rcases Decimal.exists_positional (shortestDecimal magnitude.val) with
        ⟨whole, places, written, positions⟩
      have text : ((finite negative magnitude).toText).toList =
          Numeral.sign negative ++ (whole ++ '.' :: places) := by
        unfold toText
        dsimp only
        rw [if_neg (Nat.ne_of_gt some), positional, written, String.toList_ofList]
        cases negative <;> rfl
      refine ⟨signed negative (shortestDecimal magnitude.val).value, ?_, ?_⟩
      · rw [text, ← positions.value_eq]
        exact (Numeral.shows_places positions.whole_digits positions.whole_ne_nil negative
          positions.places_digits positions.places_ne_nil).value
      · rw [signed_sub_signed]
        exact near

end Binary64

end TestSignal
