import TestSignal.Proofs.Clock.Timing
import TestSignal.Proofs.Expr.Reading
import TestSignal.Proofs.Number.Zero

namespace TestSignal

namespace Clock

namespace Timing

/-!
# The offset of the synchronisation line

The offset is shown in milliseconds with one place.  Two rules give it its sign.  A plus sign
stands in front when the offset compares as zero or more, and a minus sign is written with the
number itself when it has one.  One of them applies, and they apply together to the negative
zero alone: it compares as zero and has a minus sign.
-/

/-- Digits, a point, one digit, and the unit of milliseconds. -/
def IsMillis (text : List Char) : Prop :=
  ∃ whole place, whole ≠ [] ∧ (∀ c ∈ whole, c.isDigit = true) ∧ place.isDigit = true ∧
    text = whole ++ ['.', place, 'm', 's']

/-- Exactly one sign and milliseconds. -/
def IsSignedMillis (text : String) : Prop :=
  ∃ sign size, (sign = '+' ∨ sign = '-') ∧ IsMillis size ∧ text.toList = sign :: size

theorem IsMillis.isDigit_head {c : Char} {text : List Char} (millis : IsMillis (c :: text)) :
    c.isDigit = true := by
  rcases millis with ⟨whole, place, nonempty, digits, _, same⟩
  cases whole with
  | nil => exact absurd rfl nonempty
  | cons first whole =>
      rw [(List.cons.inj same).1]
      exact digits first List.mem_cons_self

/-- A finite number with one place is written as its sign and its size. -/
theorem exists_toList_fixedText (negative : Bool) (magnitude : Fin magnitudeCount) :
    ∃ size, IsMillis size ∧
      ((Binary64.finite negative magnitude).fixedText 1 ++ "ms").toList =
        (if negative then ['-'] else []) ++ size := by
  let units := Rounding.nearestEven
    (Binary64.unitsOfMagnitude magnitude.val * Nat.pow 10 1) unitsPerOne
  have text : (Binary64.finite negative magnitude).fixedText 1 =
      ({ negative, units, places := 1 } : FixedDecimal).toText := rfl
  have short : units % 10 ^ 1 < 10 ^ 1 := Nat.mod_lt _ (by decide)
  have one := FixedDecimal.length_padDigits Nat.one_pos short
  rcases List.length_eq_one_iff.mp one with ⟨place, written⟩
  have digit : place.isDigit = true :=
    FixedDecimal.isDigit_padDigits (by rw [written]; exact List.mem_singleton_self place)
  refine ⟨_, ⟨(FixedDecimal.padDigits 1 (units / 10 ^ 1)).toList, place,
    FixedDecimal.padDigits_ne_nil 1 _, fun c => FixedDecimal.isDigit_padDigits, digit, rfl⟩, ?_⟩
  rw [text, String.toList_append, FixedDecimal.toList_toText _ Nat.one_pos]
  dsimp only
  rw [written, List.append_assoc, List.append_assoc]
  rfl

/-- The offset as it is shown: perhaps a plus sign, perhaps a minus sign, and the size. -/
theorem exists_toList_offsetText {offsetMs : Number} (finite : offsetMs.isFinite = .ok true) :
    ∃ part negative magnitude size, offsetText offsetMs = .ok part ∧
      offsetMs.toBinary64 = .ok (.finite negative magnitude) ∧ IsMillis size ∧
      part.toList = (if (0 : Number).le offsetMs then ['+'] else []) ++
        ((if negative then ['-'] else []) ++ size) := by
  rcases Number.exists_finite finite with ⟨value, converted, isFinite⟩
  cases value with
  | infinite _ => cases isFinite
  | nan => cases isFinite
  | finite negative magnitude =>
      rcases exists_toList_fixedText negative magnitude with ⟨size, millis, written⟩
      have fixed : offsetMs.fixedText 1 = .ok ((Binary64.finite negative magnitude).fixedText 1) :=
        Outcome.bind_ok.mpr ⟨_, converted, rfl⟩
      have sized : millisText offsetMs =
          .ok ((Binary64.finite negative magnitude).fixedText 1 ++ "ms") :=
        Outcome.bind_ok.mpr ⟨_, fixed, rfl⟩
      refine ⟨_, negative, magnitude, size, Outcome.bind_ok.mpr ⟨_, sized, rfl⟩, converted,
        millis, ?_⟩
      rw [String.toList_append, written]
      cases (0 : Number).le offsetMs <;> rfl

/-- A finite offset is shown with exactly one sign unless it is the negative zero. -/
theorem isSignedMillis_iff {offsetMs : Number} (finite : offsetMs.isFinite = .ok true)
    {part : String} (shown : offsetText offsetMs = .ok part) :
    IsSignedMillis part ↔ offsetMs ≠ Number.negativeZero := by
  rcases exists_toList_offsetText finite with
    ⟨text, negative, magnitude, size, written, converted, millis, signs⟩
  cases written.symm.trans shown
  have compared := Number.zero_le_iff converted
  by_cases zero : offsetMs = Number.negativeZero
  · refine iff_of_false ?_ fun other => other zero
    rintro ⟨sign, rest, -, restMillis, same⟩
    have minus : negative = true := by
      rw [zero] at converted
      cases converted
      rfl
    rw [if_pos (compared.mpr (.inr zero)), if_pos minus, same] at signs
    cases signs
    exact absurd restMillis.isDigit_head (by decide)
  · refine iff_of_true ?_ zero
    cases negative with
    | false =>
        rw [if_pos (compared.mpr (.inl rfl))] at signs
        exact ⟨'+', size, .inl rfl, millis, signs⟩
    | true =>
        have below : ¬(0 : Number).le offsetMs = true := fun above =>
          (compared.mp above).elim nofun zero
        rw [if_neg below] at signs
        exact ⟨'-', size, .inr rfl, millis, signs⟩

end Timing

end Clock

end TestSignal
