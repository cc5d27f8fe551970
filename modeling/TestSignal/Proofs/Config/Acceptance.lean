import TestSignal.Proofs.Config.WellFormed
import TestSignal.Proofs.Number.Range

namespace TestSignal

/-!
# Which data is refused

The check of a configuration is meant to accept every object.  It does so but for one
kind of value: an integer that has no finite binary64 number near it, in the place of a
number.  Every other value is replaced by a default where it does not fit.

So the check has one fault, and the statement below says for which data it ends in that
fault.  The count of channels is looked at only when the channel map is no list; an
integer of any size in another place does no harm.
-/

open Outcome

namespace Value

/-- An integer that is rounded beyond the finite binary64 numbers. -/
def isHuge : Value → Bool
  | number (.int value) => decide (Number.integerLimit ≤ value.natAbs)
  | _ => false

theorem isHuge_int_iff {whole : Int} :
    (Value.number (.int whole)).isHuge = true ↔ Number.integerLimit ≤ whole.natAbs := by
  unfold isHuge
  rw [decide_eq_true_iff]

theorem faultsWhen_asNumber (value : Value) :
    FaultsWhen (value.isHuge = true) .integerTooLarge value.asNumber := by
  have harmless : ∀ result : Option Binary64,
      FaultsWhen (false = true) Fault.integerTooLarge (.ok result) := fun result =>
    (FaultsWhen.pure result).congr (iff_of_false id Bool.false_ne_true)
  cases value with
  | number number =>
      cases number with
      | int whole =>
          constructor
          · intro large
            change (Number.int whole).toBinary64 >>= _ = _
            rw [Number.toBinary64_int_of_le (isHuge_int_iff.mp large)]
            rfl
          · intro small
            rcases Number.toBinary64_int_of_lt (Nat.lt_of_not_le (small ∘ isHuge_int_iff.mpr)) with
              ⟨x, converted⟩
            exact ⟨some x, bind_ok.mpr ⟨x, converted, rfl⟩⟩
      | float x => exact harmless x.finite?
  | string text => exact harmless _
  | null | bool _ | list _ | object _ => exact harmless none

end Value

namespace Config

/-! ## Single fields -/

section Fields

variable (value : Value)

theorem isHuge_labelledNumber : (labelledNumber value).isHuge = value.isHuge := by
  cases value with
  | string text => cases found : Text.firstNumber? text <;> simp [labelledNumber, found] <;> rfl
  | null | bool _ | number _ | list _ | object _ => rfl

theorem faultsWhen_fontSizeOr (fallback : Number) :
    FaultsWhen (value.isHuge = true) .integerTooLarge (fontSizeOr fallback value) := by
  refine (value.faultsWhen_asNumber.bind fun number _ => ?_).congr (iff_of_eq (or_false _))
  cases number <;> exact .pure _

theorem faultsWhen_boundedOr (low high fallback : Number) :
    FaultsWhen (value.isHuge = true) .integerTooLarge (boundedOr low high fallback value) := by
  refine (value.faultsWhen_asNumber.bind fun number _ => ?_).congr (iff_of_eq (or_false _))
  cases number <;> exact .pure _

/-- Rounding adds no fault, since only finite numbers come to it. -/
theorem faultsWhen_boundedInteger? (low high : Int) :
    FaultsWhen (value.isHuge = true) .integerTooLarge (boundedInteger? low high value) := by
  refine (value.faultsWhen_asNumber.bind fun number read => ?_).congr (iff_of_eq (or_false _))
  cases number with
  | none => exact .pure none
  | some x =>
      rcases Number.roundHalfUp_float (isFinite_of_asNumber read) with ⟨rounded, made⟩
      dsimp only
      rw [made]
      exact .pure _

/-- The channels that a count is asked for, unless there is a list of them. -/
def countAsked (map count : Value) : List Value :=
  match map with
  | .list _ => []
  | _ => [count]

theorem faultsWhen_activeMap (count : Value) :
    FaultsWhen (∃ asked ∈ countAsked value count, asked.isHuge = true) .integerTooLarge
      (Channels.activeMap value count) := by
  have counted : FaultsWhen (count.isHuge = true) .integerTooLarge
      (Channels.firstChannels count >>= fun map => .ok (Channels.withFirstPair map)) := by
    refine (FaultsWhen.bind ?_ fun _ _ => .pure _).congr (iff_of_eq (or_false _))
    exact (count.faultsWhen_asNumber.bind fun _ _ => .pure _).congr (iff_of_eq (or_false _))
  cases value with
  | list items =>
      refine (FaultsWhen.pure _).congr (iff_of_false id ?_)
      rintro ⟨asked, member, _⟩
      exact List.not_mem_nil member
  | null | bool _ | number _ | string _ | object _ =>
      refine counted.congr ?_
      simp [countAsked]

end Fields

/-! ## The whole check -/

/-- The values that a check reads as numbers. -/
def numbersAsked (entries : List (String × Value)) : List Value :=
  [ valueOf entries "font_size", valueOf entries "audio_freq",
    valueOf entries "audio_level_db", valueOf entries "clock_latency_ms",
    valueOf entries "config_overlay_font_size", flashOffset entries ] ++
    countAsked (valueOf entries "audio_channel_map")
      ((Value.valueAt? "audio_channels" entries).getD (.int 2))

theorem faultsWhen_ofValue (data : Value) :
    FaultsWhen (∃ value ∈ numbersAsked (spelled data), value.isHuge = true) .integerTooLarge
      (ofValue data) := by
  unfold ofValue
  refine (FaultsWhen.bind (faultsWhen_fontSizeOr _ _) fun _ _ =>
    FaultsWhen.bind (faultsWhen_boundedOr _ _ _ _) fun _ _ =>
    FaultsWhen.bind (faultsWhen_boundedOr _ _ _ _) fun _ _ =>
    FaultsWhen.bind (faultsWhen_boundedInteger? _ _ _) fun _ _ =>
    FaultsWhen.bind (faultsWhen_boundedInteger? _ _ _) fun _ _ =>
    FaultsWhen.bind (faultsWhen_boundedInteger? _ _ _) fun _ _ =>
    FaultsWhen.bind (faultsWhen_activeMap _ _) fun _ _ => .pure _).congr ?_
  rw [isHuge_labelledNumber]
  unfold numbersAsked
  simp only [List.cons_append, List.nil_append, List.exists_mem_cons_iff, or_false]
  rfl

/-- The check refuses data for one reason: an integer too large for a number that it
reads.  All other data gives a configuration. -/
theorem ofValue_eq_error_iff {data : Value} {fault : Fault} :
    ofValue data = .error fault ↔
      fault = .integerTooLarge ∧ ∃ value ∈ numbersAsked (spelled data), value.isHuge = true :=
  (faultsWhen_ofValue data).eq_error_iff

/-- Not every object gives a configuration. -/
theorem ofValue_refuses :
    ¬∀ entries, ∃ config, ofValue (.object entries) = .ok config := by
  intro accepted
  rcases accepted [("fontSize", .int (10 ^ 400))] with ⟨config, checked⟩
  have refused : ofValue (.object [("fontSize", .int (10 ^ 400))]) = .error .integerTooLarge := by
    decide +kernel
  rw [checked] at refused
  cases refused

end Config

end TestSignal
