import TestSignal.Proofs.Command.Inputs
import TestSignal.Proofs.Config.Settled
import TestSignal.Proofs.Number.Shown
import TestSignal.Proofs.Number.Written

namespace TestSignal

open Binary64 Outcome

/-!
# The gain that is applied

The filters of the sound are joined by commas.  The gain stands in the last of them, as a number
and its unit; the number is the level rounded to thousandths, and what is rounded to zero is left
out.  So what is applied is off by little more than half of a thousandth.
-/

namespace Command

/-! ## Reading the filters of the sound -/

/-- The number of a gain in decibels. -/
def decibels? (gain : List Char) : Option ℚ :=
  (gain.dropSuffix? "dB".toList).bind Numeral.textValue?

/-- The gain that the filters of a sound apply; one without a volume filter stays as it is. -/
def gainOfFilters? (filters : String) : Option ℚ :=
  match (filters.toList.splitOn ',').findSome? (·.dropPrefix? "volume=".toList) with
  | some gain => decibels? gain
  | none => some 0

theorem gainOfFilters?_none : gainOfFilters? (audioFilters none) = some 0 := by
  decide +kernel

theorem gainOfFilters?_some {number : String} (numeral : IsNumeral number.toList) :
    gainOfFilters? (audioFilters (some (number ++ "dB"))) =
      Numeral.textValue? number.toList := by
  let volume := "volume=".toList ++ (number.toList ++ "dB".toList)
  have noComma : ',' ∉ number.toList := fun member => absurd (numeral _ member) (by decide)
  have free : ∀ filter ∈ ["adelay=300:all=1".toList, "aresample=async=1".toList, volume],
      ',' ∉ filter := by
    simp [volume, noComma]
  have pieces : (audioFilters (some (number ++ "dB"))).toList.splitOn ',' =
      ["adelay=300:all=1".toList, "aresample=async=1".toList, volume] := by
    rw [← List.splitOn_intercalate ',' free (List.cons_ne_nil _ _)]
    unfold audioFilters
    rw [String.toList_intercalate]
    simp [volume]
  have found : ["adelay=300:all=1".toList, "aresample=async=1".toList, volume].findSome?
      (·.dropPrefix? "volume=".toList) = some (number.toList ++ "dB".toList) := by
    have last : volume.dropPrefix? "volume=".toList = some (number.toList ++ "dB".toList) :=
      List.dropPrefix?_append_of_beq _ rfl
    rw [List.findSome?_cons_of_isNone rfl, List.findSome?_cons_of_isNone rfl, List.findSome?_cons,
      last]
  have unit : (number.toList ++ "dB".toList).dropSuffix? "dB".toList = some number.toList :=
    List.dropSuffix?_eq_some_iff.mpr ⟨"dB".toList, rfl, rfl⟩
  unfold gainOfFilters?
  rw [pieces, found]
  unfold decibels?
  dsimp only
  rw [unit]
  rfl

/-! ## The gain of a level -/

/-- A level that is rounded to zero has no gain. -/
theorem levelGain_of_rounded {negative : Bool} {magnitude rounded : Fin magnitudeCount}
    (made : (finite negative magnitude).roundPlaces 3 = finite negative rounded) :
    Audio.levelGain (.float (finite negative magnitude)) =
      if unitsOfMagnitude rounded.val = 0 then none
      else some ((Number.float (finite negative rounded)).toShortText ++ "dB") := by
  unfold Audio.levelGain Number.roundPlaces
  dsimp only
  rw [made, Number.isZero_finite]
  simp only [decide_eq_true_eq]

/-- The gain of a level is off by little more than half of a thousandth. -/
theorem exists_gainOfFilters? {x : Binary64} {level : ℚ} (valued : x.value? = some level)
    (small : |level| ≤ 120) :
    ∃ applied, gainOfFilters? (audioFilters (Audio.levelGain (.float x))) = some applied ∧
      |applied - level| ≤ 1 / 2000 + 1 / 10 ^ 9 := by
  cases x with
  | infinite _ => cases valued
  | nan => cases valued
  | finite negative magnitude =>
      rw [← Option.some.inj ((value?_finite negative magnitude).symm.trans valued)] at small ⊢
      have one : (0 : ℚ) < unitsPerOne := Nat.cast_pos.mpr unitsPerOne_pos
      have nonneg : (0 : ℚ) ≤ unitsOfMagnitude magnitude.val / unitsPerOne :=
        div_nonneg (Nat.cast_nonneg _) one.le
      rw [abs_signed, abs_of_nonneg nonneg] at small
      rcases exists_roundPlaces_near negative magnitude 3 7 (by linarith) (by decide) with
        ⟨scaled, rounded, made, near, off, none⟩
      rw [levelGain_of_rounded made]
      have nearBounds := abs_le.mp near
      have offBounds := abs_le.mp off
      by_cases zero : scaled = 0
      · refine ⟨0, ?_, ?_⟩
        · rw [if_pos (none zero), gainOfFilters?_none]
        · rw [zero, Nat.cast_zero, zero_div, zero_sub, abs_neg] at near
          rw [zero_sub, abs_neg, abs_signed]
          exact near.trans (by norm_num)
      · have counted : (1 : ℚ) ≤ scaled := by
          exact_mod_cast Nat.pos_of_ne_zero zero
        have least : 1 / 2000 ≤ (unitsOfMagnitude rounded.val : ℚ) / unitsPerOne := by linarith
        have most : (unitsOfMagnitude rounded.val : ℚ) / unitsPerOne ≤ 121 := by linarith
        have some : unitsOfMagnitude rounded.val ≠ 0 := by
          intro none
          rw [none, Nat.cast_zero, zero_div] at least
          norm_num at least
        rcases exists_textValue?_toShortText negative least (by linarith) with
          ⟨shown, read, close⟩
        rw [if_neg some, gainOfFilters?_some (Number.isNumeral_toShortText _)]
        refine ⟨shown, read, ?_⟩
        have step : |signed negative ((unitsOfMagnitude rounded.val : ℚ) / unitsPerOne) -
            signed negative (unitsOfMagnitude magnitude.val / unitsPerOne)| ≤
              1 / 2000 + 1 / 10 ^ 10 := by
          rw [signed_sub_signed, abs_le]
          constructor <;> linarith
        have closeBounds := abs_le.mp close
        have stepBounds := abs_le.mp step
        rw [abs_le]
        constructor <;> linarith

end Command

end TestSignal
