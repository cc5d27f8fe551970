import TestSignal.Proofs.Number.Shown
import TestSignal.Proofs.Overlay.Status

namespace TestSignal

open Binary64 Outcome

/-!
# The level that is shown

A level is rounded half up to thousandths, and the thousandths are shown with two places, without
the zeros at their end.  So what is shown is off by little more than half of a hundredth and half
of a thousandth.

The sign is that of the thousandths.  Up to four thousandths are shown as zero, so there the sign
is that of a number which is not shown; everywhere else it is that of the number which is.
-/

namespace Overlay

/-! ## Zeros at the end -/

/-- The characters without the zeros at the end, and without a point that is then the last. -/
def trimmedZeros (text : List Char) : List Char :=
  ((text.reverse.dropWhile (· == '0')).dropWhile (· == '.')).reverse

theorem trimmedZeros_zero (text : List Char) :
    trimmedZeros (text ++ ['0']) = trimmedZeros text := by
  unfold trimmedZeros
  rw [List.reverse_append, List.reverse_singleton, List.singleton_append,
    List.dropWhile_cons_of_pos rfl]

theorem trimmedZeros_of_ne {text : List Char} {c : Char} (notZero : c ≠ '0') (notPoint : c ≠ '.') :
    trimmedZeros (text ++ [c]) = text ++ [c] := by
  unfold trimmedZeros
  rw [List.reverse_append, List.reverse_singleton, List.singleton_append,
    List.dropWhile_cons_of_neg (by simpa using notZero),
    List.dropWhile_cons_of_neg (by simpa using notPoint), List.reverse_cons, List.reverse_reverse]

theorem trimmedZeros_point {text : List Char} {c : Char} (notPoint : c ≠ '.') :
    trimmedZeros (text ++ [c] ++ ['.']) = text ++ [c] := by
  unfold trimmedZeros
  rw [List.reverse_append, List.reverse_singleton, List.singleton_append,
    List.dropWhile_cons_of_neg (by decide), List.dropWhile_cons_of_pos rfl, List.reverse_append,
    List.reverse_singleton, List.singleton_append,
    List.dropWhile_cons_of_neg (by simpa using notPoint), List.reverse_cons, List.reverse_reverse]

theorem ne_point_of_isDigit {c : Char} (digit : c.isDigit = true) : c ≠ '.' := by
  rintro rfl
  exact absurd digit (by decide)

/-- Leaving out the zeros at the end of the places does not change what is shown. -/
theorem shows_trimmedZeros (negative : Bool) {whole places : List Char}
    (digits : ∀ c ∈ whole, c.isDigit = true) (nonempty : whole ≠ [])
    (placeDigits : ∀ c ∈ places, c.isDigit = true) :
    Numeral.Shows (trimmedZeros (Numeral.sign negative ++ (whole ++ '.' :: places))) negative
      (Nat.ofDigitChars 10 (whole ++ places) 0 / 10 ^ places.length) := by
  induction places using List.reverseRecOn with
  | nil =>
      rcases List.eq_nil_or_concat whole with none | ⟨front, last, rfl⟩
      · exact absurd none nonempty
      · rw [List.concat_eq_append] at digits nonempty ⊢
        have joined : Numeral.sign negative ++ (front ++ [last] ++ ['.']) =
            Numeral.sign negative ++ front ++ [last] ++ ['.'] := by simp
        rw [joined, trimmedZeros_point (ne_point_of_isDigit (digits last (by simp))),
          List.append_assoc, List.append_nil, List.length_nil, pow_zero, div_one]
        exact Numeral.shows_whole digits nonempty negative
  | append_singleton rest c inductionHypothesis =>
      rcases List.forall_mem_append.mp placeDigits with ⟨restDigits, last⟩
      have digit := last c List.mem_cons_self
      by_cases zero : c = '0'
      · subst zero
        have joined : Numeral.sign negative ++ (whole ++ '.' :: (rest ++ ['0'])) =
            Numeral.sign negative ++ (whole ++ '.' :: rest) ++ ['0'] := by simp
        have tenfold : Nat.ofDigitChars 10 (whole ++ (rest ++ ['0'])) 0 =
            Nat.ofDigitChars 10 (whole ++ rest) 0 * 10 := by
          rw [← List.append_assoc, Nat.ofDigitChars_append, Nat.ofDigitChars_cons,
            Nat.ofDigitChars_nil, Nat.sub_self, Nat.add_zero, Nat.mul_comm]
        rw [joined, trimmedZeros_zero, tenfold, List.length_append, List.length_singleton, pow_succ,
          Nat.cast_mul, Nat.cast_ofNat, mul_div_mul_right _ _ (by norm_num)]
        exact inductionHypothesis restDigits
      · have joined : Numeral.sign negative ++ (whole ++ '.' :: (rest ++ [c])) =
            Numeral.sign negative ++ (whole ++ '.' :: rest) ++ [c] := by simp
        rw [joined, trimmedZeros_of_ne zero (ne_point_of_isDigit digit), ← joined]
        exact Numeral.shows_places digits nonempty negative placeDigits (by simp)

/-- A decimal with places is shown without the zeros at its end, and with its value. -/
theorem shows_dropTrailingZeros (d : FixedDecimal) (placed : 0 < d.places) :
    Numeral.Shows (dropTrailingZeros d.toText).toList d.negative (d.units / 10 ^ d.places) := by
  have short : d.units % 10 ^ d.places < 10 ^ d.places := Nat.mod_lt _ (Nat.pow_pos (by decide))
  have trimmed : (dropTrailingZeros d.toText).toList = trimmedZeros d.toText.toList :=
    String.toList_ofList
  have units : Nat.ofDigitChars 10
      ((FixedDecimal.padDigits 1 (d.units / 10 ^ d.places)).toList ++
        (FixedDecimal.padDigits d.places (d.units % 10 ^ d.places)).toList) 0 = d.units := by
    rw [Nat.ofDigitChars_append, Nat.ofDigitChars_eq_ofDigitChars_zero,
      FixedDecimal.ofDigitChars_padDigits, FixedDecimal.ofDigitChars_padDigits,
      FixedDecimal.length_padDigits placed short, Nat.div_add_mod]
  have digits (width n : Nat) : ∀ c ∈ (FixedDecimal.padDigits width n).toList, c.isDigit = true :=
    fun c => FixedDecimal.isDigit_padDigits
  have read := shows_trimmedZeros d.negative (digits 1 (d.units / 10 ^ d.places))
    (FixedDecimal.padDigits_ne_nil _ _) (digits d.places (d.units % 10 ^ d.places))
  rw [units, FixedDecimal.length_padDigits placed short] at read
  rw [trimmed, FixedDecimal.toList_toText d placed]
  exact read

/-! ## Thousandths -/

/-- A level in thousandths, rounded half up. -/
def levelThousandths (level : Number) : Except Fault Int := do
  Number.roundHalfUp (← level.mul 1000)

/-- The level that thousandths make up. -/
def levelOfThousandths (thousandths : Int) : Except Fault Binary64 := do
  (← (Number.int thousandths).div 1000).toBinary64

/-- The label of a level is that of its thousandths. -/
theorem levelLabel_eq {x quotient : Binary64} (finite : x.isFinite = true) {thousandths : Int}
    (rounded : levelThousandths (.float x) = .ok thousandths)
    (divided : levelOfThousandths thousandths = .ok quotient) :
    levelLabel (.number (.float x)) = .ok (some
      ((if (0 : Number).lt (.float quotient) then "+" else "") ++ levelText quotient ++
        " dBFS")) := by
  rcases bind_ok.mp rounded with ⟨product, scaled, rounded⟩
  rcases bind_ok.mp divided with ⟨ratio, divided, converted⟩
  refine bind_ok.mpr ⟨some x, Config.asNumber_float finite, bind_ok.mpr ⟨product, scaled, ?_⟩⟩
  refine bind_ok.mpr ⟨thousandths, rounded, bind_ok.mpr ⟨ratio, divided, ?_⟩⟩
  exact bind_ok.mpr ⟨quotient, converted, rfl⟩

/-- The thousandths of a level are off by little more than one half. -/
theorem exists_levelThousandths {x : Binary64} {level : ℚ} (valued : x.value? = some level)
    (small : |level| ≤ 120) :
    ∃ thousandths, levelThousandths (.float x) = .ok thousandths ∧
      |(thousandths : ℚ) / 1000 - level| ≤ 1 / 2000 + 1 / 10 ^ 9 := by
  rcases ofInt?_exact (show (1000 : Int).natAbs < 2 ^ 53 by decide) with
    ⟨thousand, converted, counted⟩
  have one : (unitsPerOne : ℚ) ≠ 0 := Nat.cast_ne_zero.mpr (Nat.ne_of_gt unitsPerOne_pos)
  have factor : thousand.value? = some (1000 : ℚ) := by
    rw [value?_of_units counted, Int.cast_mul, Int.cast_natCast, mul_div_cancel_right₀ _ one]
    rfl
  have bounds := abs_le.mp small
  have productSmall : |level * 1000| < 2 ^ 17 := by
    rw [abs_lt]
    constructor <;> linarith
  rcases exists_value?_mul valued factor productSmall (by decide) with ⟨product, made, near⟩
  have productBounds := abs_le.mp near
  have sumSmall : |product + 1 / 2| < 2 ^ 17 := by
    rw [abs_lt]
    constructor <;> linarith
  rcases Number.exists_roundHalfUp_near made sumSmall (by decide) with
    ⟨thousandths, rounded, off⟩
  refine ⟨thousandths, bind_ok.mpr ⟨_, Number.float_mul x (Number.toBinary64_int.mpr converted),
    rounded⟩, ?_⟩
  have offBounds := abs_le.mp off
  rw [abs_le]
  constructor <;> linarith

/-- What a text of thousandths shows: their sign, and a size near them. -/
structure ShowsThousandths (thousandths : Int) (text : List Char) (size : ℚ) : Prop where
  shows : Numeral.Shows text (decide (thousandths < 0)) size
  nonneg : 0 ≤ size
  near : |size - (thousandths.natAbs : ℚ) / 1000| ≤ 1 / 200 + 1 / 10 ^ 9
  visible : 0 < size ↔ 5 ≤ thousandths.natAbs

/-- Five thousandths, the least that are not shown as zero. -/
theorem five_thousandths : ∀ thousandths ∈ [(5 : Int), -5],
    ∃ quotient, levelOfThousandths thousandths = .ok quotient ∧
      Numeral.textValue? (levelText quotient).toList ≠ some 0 := by
  have shown : ∀ thousandths ∈ [(5 : Int), -5],
      (levelOfThousandths thousandths).toOption.any
        (fun quotient => Numeral.textValue? (levelText quotient).toList ≠ some 0) = true := by
    decide +kernel
  intro thousandths listed
  rcases any_ok.mp (shown thousandths listed) with ⟨quotient, divided, visible⟩
  exact ⟨quotient, divided, of_decide_eq_true visible⟩

/-- The quotient of thousandths has their sign. -/
theorem lt_float_of_signed {thousandths : Int} (some : thousandths ≠ 0)
    {magnitude : Fin magnitudeCount} (positive : 0 < unitsOfMagnitude magnitude.val) :
    (0 : Number).lt (.float (finite (decide (thousandths < 0)) magnitude)) =
      decide (0 < thousandths) := by
  change decide (0 * (unitsPerOne : Int) < if decide (thousandths < 0) then
    -(unitsOfMagnitude magnitude.val : Int) else unitsOfMagnitude magnitude.val) = _
  rw [Int.zero_mul]
  apply decide_eq_decide.mpr
  by_cases negative : thousandths < 0
  · rw [decide_eq_true negative, if_pos rfl]
    omega
  · rw [decide_eq_false negative, if_neg Bool.false_ne_true]
    omega

section Quotient

variable {thousandths : Int} {magnitude : Fin magnitudeCount}
  (near : |(unitsOfMagnitude magnitude.val : ℚ) / unitsPerOne -
    (thousandths.natAbs : ℚ) / 1000| ≤ 1 / 10 ^ 9)
include near

/-- A whole quotient is shown as it is. -/
theorem showsThousandths_whole
    (positive : (0 : ℚ) < unitsOfMagnitude magnitude.val / unitsPerOne) {whole : Int}
    (found : (finite (decide (thousandths < 0)) magnitude).integer? = some whole) :
    ShowsThousandths thousandths
      (levelText (finite (decide (thousandths < 0)) magnitude)).toList
      (unitsOfMagnitude magnitude.val / unitsPerOne) := by
  have same := Option.some.inj ((value?_finite _ _).symm.trans (integer?_of_eq found))
  have text : levelText (finite (decide (thousandths < 0)) magnitude) = toString whole := by
    unfold levelText
    rw [found]
  rw [text]
  generalize (unitsOfMagnitude magnitude.val : ℚ) / unitsPerOne = size at *
  have sign : whole < 0 ↔ thousandths < 0 := by
    rw [← Int.cast_lt_zero (R := ℚ), ← same]
    by_cases negative : thousandths < 0
    · rw [decide_eq_true negative, signed_true, neg_lt_zero]
      exact iff_of_true positive negative
    · rw [decide_eq_false negative, signed_false]
      exact iff_of_false (not_lt.mpr positive.le) negative
  have natAbs : (whole.natAbs : ℚ) = size := by
    rw [Nat.cast_natAbs, Int.cast_abs, ← same, abs_signed, abs_of_pos positive]
  have shows := Numeral.shows_integer whole
  rw [natAbs, decide_eq_decide.mpr sign] at shows
  refine ⟨shows, positive.le, ?_, ?_⟩
  · exact near.trans (by norm_num)
  · -- A whole number other than zero is at least a thousand thousandths, but for what is rounded.
    have one : (1 : ℚ) ≤ size := by
      rw [← natAbs] at positive ⊢
      exact_mod_cast positive
    have many : (4 : ℚ) < thousandths.natAbs := by linarith [(abs_le.mp near).2]
    exact iff_of_true positive (by exact_mod_cast many)

/-- Any other quotient is shown with at most two places. -/
theorem showsThousandths_places
    (divided : levelOfThousandths thousandths =
      .ok (finite (decide (thousandths < 0)) magnitude))
    (broken : (finite (decide (thousandths < 0)) magnitude).integer? = none) :
    ∃ size, ShowsThousandths thousandths
      (levelText (finite (decide (thousandths < 0)) magnitude)).toList size := by
  rcases exists_toFixed?_near (decide (thousandths < 0)) magnitude 2 with ⟨units, fixed, off⟩
  have text : levelText (finite (decide (thousandths < 0)) magnitude) = dropTrailingZeros
      ({ negative := decide (thousandths < 0), units, places := 2 } : FixedDecimal).toText := by
    unfold levelText fixedText
    rw [broken, fixed]
  have shows := shows_dropTrailingZeros
    { negative := decide (thousandths < 0), units, places := 2 } Nat.two_pos
  rw [← text] at shows
  have nearBounds := abs_le.mp near
  have offBounds := abs_le.mp off
  refine ⟨_, shows, by positivity, ?_, ?_⟩
  · rw [abs_le]
    constructor <;> linarith
  · have visible : (0 : ℚ) < units / 10 ^ 2 ↔ 0 < units := by
      rw [div_pos_iff_of_pos_right (by norm_num), Nat.cast_pos]
    rw [visible]
    rcases Nat.lt_trichotomy thousandths.natAbs 5 with fewer | five | more
    · have few : (thousandths.natAbs : ℚ) ≤ 4 := by exact_mod_cast Nat.le_of_lt_succ fewer
      have none : (units : ℚ) < 1 := by linarith
      have zero : units < 1 := by exact_mod_cast none
      omega
    · refine iff_of_true (Nat.pos_of_ne_zero fun zero => ?_) (Nat.le_of_eq five.symm)
      have either : thousandths ∈ [(5 : Int), -5] := by
        simp only [List.mem_cons, List.not_mem_nil, or_false]
        omega
      rcases five_thousandths thousandths either with ⟨quotient, again, notZero⟩
      cases divided.symm.trans again
      apply notZero
      rw [shows.value, zero, Nat.cast_zero, zero_div]
      cases decide (thousandths < 0) <;> rfl
    · have many : (6 : ℚ) ≤ thousandths.natAbs := by exact_mod_cast more
      have some : (0 : ℚ) < units := by linarith
      have positive : 0 < units := by exact_mod_cast some
      omega

end Quotient

/-- Thousandths other than zero are shown with their sign and near their size. -/
theorem exists_levelText {thousandths : Int} (some : thousandths ≠ 0)
    (few : thousandths.natAbs ≤ 120001) :
    ∃ quotient size, levelOfThousandths thousandths = .ok quotient ∧
      (0 : Number).lt (.float quotient) = decide (0 < thousandths) ∧
      ShowsThousandths thousandths (levelText quotient).toList size := by
  rcases Number.exists_div_int_near thousandths 7 (show 0 < 1000 by decide) (by omega) (by decide)
    with ⟨magnitude, divided, near⟩
  have close : |(unitsOfMagnitude magnitude.val : ℚ) / unitsPerOne -
      (thousandths.natAbs : ℚ) / 1000| ≤ 1 / 10 ^ 9 := near.trans (by norm_num)
  have one : (0 : ℚ) < unitsPerOne := Nat.cast_pos.mpr unitsPerOne_pos
  have least : (1 : ℚ) ≤ thousandths.natAbs := by
    exact_mod_cast Int.natAbs_pos.mpr some
  have positive : (0 : ℚ) < (unitsOfMagnitude magnitude.val : ℚ) / unitsPerOne := by
    linarith [(abs_le.mp close).1]
  have units : 0 < unitsOfMagnitude magnitude.val := by
    rw [div_pos_iff_of_pos_right one] at positive
    exact_mod_cast positive
  have sign := lt_float_of_signed some units
  have made : levelOfThousandths thousandths = .ok (finite (decide (thousandths < 0)) magnitude) :=
    bind_ok.mpr ⟨_, divided, rfl⟩
  cases whole : (finite (decide (thousandths < 0)) magnitude).integer? with
  | some value =>
      exact ⟨_, _, made, sign, showsThousandths_whole close positive whole⟩
  | none =>
      rcases showsThousandths_places close made whole with ⟨size, shows⟩
      exact ⟨_, size, made, sign, shows⟩

/-! ## The label -/

/-- The number that a label shows; a plus sign and the unit are no part of it. -/
def labelValue? (label : String) : Option ℚ :=
  Numeral.textValue? ((label.toList.dropWhile (· == '+')).takeWhile (· != ' '))

/-- The signs of a label are those of the number that it shows, and zero has none. -/
structure SignedAsShown (label : String) (shown : ℚ) : Prop where
  plus : '+' ∈ label.toList ↔ 0 < shown
  minus : '-' ∈ label.toList ↔ shown < 0
  zero : shown = 0 → label = "0 dBFS"

section Label

variable {text : String} {negative : Bool} {size : ℚ} (plus : Bool)
  (shows : Numeral.Shows text.toList negative size)
include shows

/-- The number that is labelled is found again. -/
theorem labelValue?_of_shows (numeral : IsNumeral text.toList) :
    labelValue? ((if plus then "+" else "") ++ text ++ " dBFS") = some (signed negative size) := by
  have unsigned : (text.toList ++ " dBFS".toList).dropWhile (· == '+') =
      text.toList ++ " dBFS".toList := by
    cases body : text.toList with
    | nil => rfl
    | cons c rest =>
        have notPlus : c ≠ '+' := by
          rintro rfl
          exact shows.plus (body ▸ List.mem_cons_self)
        exact List.dropWhile_cons_of_neg (by simpa using notPlus)
  have bare : (text.toList ++ " dBFS".toList).takeWhile (· != ' ') = text.toList := by
    rw [List.takeWhile_append_of_pos]
    · exact List.append_nil _
    · rintro c member
      rw [bne_iff_ne]
      rintro rfl
      exact absurd (numeral _ member) (by decide)
  have stripped : ((if plus then "+" else "") ++ text ++ " dBFS").toList.dropWhile (· == '+') =
      text.toList ++ " dBFS".toList := by
    cases plus
    · rw [if_neg Bool.false_ne_true, String.toList_append, String.toList_append]
      exact unsigned
    · rw [if_pos rfl, String.toList_append, String.toList_append]
      exact (List.dropWhile_cons_of_pos rfl).trans unsigned
  unfold labelValue?
  rw [stripped, bare, shows.value]

theorem plus_mem_label :
    '+' ∈ ((if plus then "+" else "") ++ text ++ " dBFS").toList ↔ plus = true := by
  have free := shows.plus
  cases plus <;> simp [free]

theorem minus_mem_label :
    '-' ∈ ((if plus then "+" else "") ++ text ++ " dBFS").toList ↔ negative = true := by
  rw [← shows.minus]
  cases plus <;> simp

end Label

/-- The label of thousandths other than zero has their signs, which are those of the number that is
shown when the thousandths can be seen. -/
theorem signedAsShown_iff {thousandths : Int} (some : thousandths ≠ 0) {text : String} {size : ℚ}
    (showing : ShowsThousandths thousandths text.toList size) :
    SignedAsShown ((if decide (0 < thousandths) then "+" else "") ++ text ++ " dBFS")
        (signed (decide (thousandths < 0)) size) ↔
      ¬(1 ≤ thousandths.natAbs ∧ thousandths.natAbs ≤ 4) := by
  have visible : 0 < size ↔ ¬(1 ≤ thousandths.natAbs ∧ thousandths.natAbs ≤ 4) := by
    rw [showing.visible]
    omega
  rw [← visible]
  have plus := plus_mem_label (decide (0 < thousandths)) showing.shows
  have minus := minus_mem_label (decide (0 < thousandths)) showing.shows
  constructor
  · -- Without a size there would be a sign at a zero.
    intro signs
    by_contra hidden
    have zero : size = 0 := le_antisymm (not_lt.mp hidden) showing.nonneg
    rw [zero, signed_zero] at signs
    rcases Int.lt_or_gt_of_ne some with below | above
    · exact lt_irrefl _ (signs.minus.mp (minus.mpr (decide_eq_true below)))
    · exact lt_irrefl _ (signs.plus.mp (plus.mpr (decide_eq_true above)))
  · intro positive
    rcases Int.lt_or_gt_of_ne some with below | above
    · have notAbove : ¬ 0 < thousandths := by omega
      rw [decide_eq_true below, decide_eq_false notAbove] at *
      rw [signed_true]
      have negative : -size < 0 := neg_lt_zero.mpr positive
      exact ⟨plus.trans (iff_of_false Bool.false_ne_true (not_lt.mpr negative.le)),
        minus.trans (iff_of_true rfl negative), fun zero => absurd zero negative.ne⟩
    · have notBelow : ¬ thousandths < 0 := by omega
      rw [decide_eq_false notBelow, decide_eq_true above] at *
      rw [signed_false]
      exact ⟨plus.trans (iff_of_true rfl positive),
        minus.trans (iff_of_false Bool.false_ne_true (not_lt.mpr positive.le)),
        fun zero => absurd zero positive.ne'⟩

theorem no_thousandths :
    ∃ quotient, levelOfThousandths 0 = .ok quotient ∧
      (if (0 : Number).lt (.float quotient) then "+" else "") ++ levelText quotient ++ " dBFS" =
        "0 dBFS" := by
  have labelled : (levelOfThousandths 0).toOption.any (fun quotient =>
      (if (0 : Number).lt (.float quotient) then "+" else "") ++ levelText quotient ++ " dBFS" =
        "0 dBFS") = true := by
    decide +kernel
  rcases any_ok.mp labelled with ⟨quotient, divided, zero⟩
  exact ⟨quotient, divided, of_decide_eq_true zero⟩

/-- The label of a level shows it within a hundredth, and has the right signs exactly when one to
four thousandths were not rounded to zero. -/
theorem exists_levelLabel_shown {x : Binary64} {level : ℚ} (valued : x.value? = some level)
    (small : |level| ≤ 120) :
    ∃ label shown thousandths, levelLabel (.number (.float x)) = .ok (some label) ∧
      levelThousandths (.float x) = .ok thousandths ∧
      labelValue? label = some shown ∧ |shown - level| ≤ 11 / 2000 + 1 / 10 ^ 8 ∧
      (SignedAsShown label shown ↔ ¬(1 ≤ thousandths.natAbs ∧ thousandths.natAbs ≤ 4)) := by
  rcases exists_levelThousandths valued small with ⟨thousandths, rounded, near⟩
  have finite := isFinite_of_value? valued
  by_cases none : thousandths = 0
  · subst none
    rcases no_thousandths with ⟨quotient, divided, zero⟩
    have label := levelLabel_eq finite rounded divided
    rw [zero] at label
    have unsigned : SignedAsShown "0 dBFS" 0 :=
      ⟨iff_of_false (by decide) (lt_irrefl _), iff_of_false (by decide) (lt_irrefl _),
        fun _ => rfl⟩
    refine ⟨_, 0, 0, label, rounded, by decide +kernel, ?_, iff_of_true unsigned (by decide)⟩
    rw [Int.cast_zero, zero_div] at near
    exact near.trans (by norm_num)
  · have bounds := abs_le.mp small
    have nearBounds := abs_le.mp near
    have few : thousandths.natAbs ≤ 120001 := by
      have least : ((-120001 : Int) : ℚ) ≤ thousandths := by
        push_cast
        linarith
      have most : (thousandths : ℚ) ≤ (120001 : Int) := by
        push_cast
        linarith
      have above := Int.cast_le.mp least
      have below := Int.cast_le.mp most
      omega
    rcases exists_levelText none few with ⟨quotient, size, divided, positive, showing⟩
    have label := levelLabel_eq finite rounded divided
    rw [positive] at label
    have off := showing.near
    rw [← signed_sub_signed (decide (thousandths < 0)), signed_div, signed_natAbs] at off
    have offBounds := abs_le.mp off
    refine ⟨_, _, thousandths, label, rounded,
      labelValue?_of_shows _ showing.shows (isNumeral_levelText quotient), ?_,
      signedAsShown_iff none showing⟩
    rw [abs_le]
    constructor <;> linarith

end Overlay

end TestSignal
