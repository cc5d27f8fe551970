import TestSignal.Proofs.Number.Reading
import TestSignal.Sntp

namespace TestSignal

namespace Sntp

open Text (IsDigits StartsIn StartsOutside EndsIn isBlank)
open Reading (DecimalText)

/-!
# What is found in a data line

The offset and the dispersion of a data line are each found at the first place where they can
begin.  What is found at a place has a form of its own, and so it can be said where nothing is
found: a plus-minus sign is in no decimal and in no blanks, so a text in front of the line
that holds none of its own, and ends in a blank, hides neither of the two.
-/

/-- The plus-minus sign, in three characters. -/
def plusMinus : List Char := ['+', '/', '-']

theorem startsPlusMinus_iff {text : List Char} :
    startsPlusMinus text = true ↔ plusMinus <+: text := by
  rw [startsPlusMinus, beq_iff_eq, List.prefix_iff_eq_take]
  exact eq_comm

/-- Blanks, and at least one. -/
structure IsGap (text : List Char) : Prop where
  nonempty : text ≠ []
  blank : ∀ c ∈ text, isBlank c = true

theorem IsGap.startsIn {gap : List Char} (isGap : IsGap gap) (rest : List Char) :
    StartsIn isBlank (gap ++ rest) := by
  rcases List.exists_cons_of_ne_nil isGap.nonempty with ⟨c, more, rfl⟩
  rintro _ ⟨⟩
  exact isGap.blank c List.mem_cons_self

/-- A blank is no digit, so a text that starts with one has no run of digits in front. -/
theorem not_isDigit_of_startsIn {rest : List Char} (starts : StartsIn isBlank rest) :
    StartsOutside Text.isDigit rest := by
  intro c first
  rw [Bool.eq_false_iff]
  intro digit
  have blank := starts c first
  rw [Text.isBlank_of_isDigit digit] at blank
  cases blank

/-! ## At the front of a text -/

theorem afterBlanks?_append {gap rest : List Char} (isGap : IsGap gap)
    (inked : StartsOutside isBlank rest) : afterBlanks? (gap ++ rest) = some rest := by
  rcases List.exists_cons_of_ne_nil isGap.nonempty with ⟨c, more, rfl⟩
  rcases List.forall_mem_cons.mp isGap.blank with ⟨first, others⟩
  rw [List.cons_append, afterBlanks?, if_pos first, Text.dropWhile_run others inked]

theorem eq_append_of_afterBlanks? {text rest : List Char} (found : afterBlanks? text = some rest) :
    ∃ gap, IsGap gap ∧ text = gap ++ rest := by
  unfold afterBlanks? at found
  split at found
  case h_2 => cases found
  case h_1 c more =>
      split at found
      case isFalse => cases found
      case isTrue blank =>
          cases found
          refine ⟨c :: more.takeWhile isBlank, ⟨List.cons_ne_nil _ _, ?_⟩, ?_⟩
          · exact List.forall_mem_cons.mpr ⟨blank, fun _ member => List.mem_takeWhile_imp member⟩
          · rw [List.cons_append, List.takeWhile_append_dropWhile]

theorem unsignedDecimal?_append {whole places rest : List Char} (isWhole : IsDigits whole)
    (isPlaces : IsDigits places) (stops : StartsOutside Text.isDigit rest) :
    unsignedDecimal? (whole ++ '.' :: places ++ rest) = some (whole ++ '.' :: places, rest) := by
  have atPoint : StartsOutside Text.isDigit ('.' :: (places ++ rest)) := by
    rintro c ⟨⟩
    decide
  have some_whole : whole.isEmpty = false := List.isEmpty_eq_false_iff.mpr isWhole.nonempty
  have some_places : places.isEmpty = false := List.isEmpty_eq_false_iff.mpr isPlaces.nonempty
  rw [List.append_assoc, List.cons_append]
  simp only [unsignedDecimal?, Text.takeWhile_run isWhole.digits atPoint,
    Text.dropWhile_run isWhole.digits atPoint, Text.takeWhile_run isPlaces.digits stops,
    Text.dropWhile_run isPlaces.digits stops, some_whole, some_places, Bool.or_self,
    Bool.false_eq_true, if_false]

theorem eq_append_of_unsignedDecimal? {text found rest : List Char}
    (read : unsignedDecimal? text = some (found, rest)) :
    ∃ whole places, IsDigits whole ∧ IsDigits places ∧ found = whole ++ '.' :: places ∧
      text = found ++ rest := by
  unfold unsignedDecimal? at read
  dsimp only at read
  split at read
  case h_2 => cases read
  case h_1 more atPoint =>
      split at read
      case isTrue => cases read
      case isFalse present =>
          cases read
          rw [Bool.or_eq_true, not_or, List.isEmpty_iff, List.isEmpty_iff] at present
          refine ⟨_, _, ⟨present.1, fun _ => List.mem_takeWhile_imp⟩,
            ⟨present.2, fun _ => List.mem_takeWhile_imp⟩, rfl, ?_⟩
          rw [List.append_assoc, List.cons_append, List.takeWhile_append_dropWhile, ← atPoint,
            List.takeWhile_append_dropWhile]

theorem signedDecimal?_append (decimal : DecimalText) {rest : List Char}
    (stops : StartsOutside Text.isDigit rest) :
    signedDecimal? (decimal.chars ++ rest) = some (decimal.chars, rest) := by
  have digits := unsignedDecimal?_append decimal.isWhole decimal.isPlaces stops
  rcases decimal.isSign with same | same | same
  · rcases List.exists_cons_of_ne_nil decimal.isWhole.nonempty with ⟨c, more, begins⟩
    have digit := decimal.isWhole.digits c (begins ▸ List.mem_cons_self)
    have unsigned : ¬(c == '+' || c == '-') = true := by
      rw [Bool.or_eq_true, beq_iff_eq, beq_iff_eq, not_or]
      exact ⟨Text.ne_of_isDigit digit (by decide), Text.ne_of_isDigit digit (by decide)⟩
    rw [DecimalText.chars, same, List.nil_append]
    rw [begins] at digits ⊢
    simp only [List.cons_append] at digits ⊢
    rw [signedDecimal?, if_neg unsigned, digits]
  · rw [DecimalText.chars, same]
    simp only [List.cons_append, List.nil_append] at digits ⊢
    rw [signedDecimal?, if_pos (by decide), digits]
    rfl
  · rw [DecimalText.chars, same]
    simp only [List.cons_append, List.nil_append] at digits ⊢
    rw [signedDecimal?, if_pos (by decide), digits]
    rfl

theorem eq_append_of_signedDecimal? {text found rest : List Char}
    (read : signedDecimal? text = some (found, rest)) :
    ∃ decimal : DecimalText, found = decimal.chars ∧ text = decimal.chars ++ rest := by
  unfold signedDecimal? at read
  split at read
  case h_2 => cases read
  case h_1 c more =>
      split at read
      case isFalse =>
          rcases eq_append_of_unsignedDecimal? read with ⟨whole, places, isWhole, isPlaces, rfl, same⟩
          exact ⟨⟨[], whole, places, .inl rfl, isWhole, isPlaces⟩, rfl, same⟩
      case isTrue sign =>
          rcases Option.map_eq_some_iff.mp read with ⟨⟨digits, after⟩, unsigned, same⟩
          cases same
          rcases eq_append_of_unsignedDecimal? unsigned with
            ⟨whole, places, isWhole, isPlaces, rfl, rfl⟩
          have isSign : [c] = [] ∨ [c] = ['+'] ∨ [c] = ['-'] := by
            rw [Bool.or_eq_true, beq_iff_eq, beq_iff_eq] at sign
            exact .inr (sign.imp (congrArg ([·])) (congrArg ([·])))
          exact ⟨⟨[c], whole, places, isSign, isWhole, isPlaces⟩, rfl, rfl⟩

/-- A decimal with a gap and the plus-minus sign after it is an offset. -/
theorem offsetAtFront?_append (offset : DecimalText) {gap : List Char} (isGap : IsGap gap)
    (rest : List Char) :
    offsetAtFront? (offset.chars ++ (gap ++ (plusMinus ++ rest))) = some offset.chars := by
  have stops := not_isDigit_of_startsIn (isGap.startsIn (plusMinus ++ rest))
  have inked : StartsOutside isBlank (plusMinus ++ rest) := by
    rintro c ⟨⟩
    decide
  have marked : startsPlusMinus (plusMinus ++ rest) = true := rfl
  simp only [offsetAtFront?, signedDecimal?_append offset stops, afterBlanks?_append isGap inked,
    Option.bind_eq_bind, Option.bind_some, marked, if_true]

/-- An offset is a decimal, with a gap and the plus-minus sign after it. -/
theorem eq_append_of_offsetAtFront? {text found : List Char}
    (read : offsetAtFront? text = some found) :
    ∃ (offset : DecimalText) (gap rest : List Char), found = offset.chars ∧ IsGap gap ∧
      text = offset.chars ++ (gap ++ (plusMinus ++ rest)) := by
  rcases Option.bind_eq_some_iff.mp read with ⟨⟨digits, after⟩, decimalRead, read⟩
  rcases Option.bind_eq_some_iff.mp read with ⟨marked, gapRead, read⟩
  split at read
  case isFalse => cases read
  case isTrue starts =>
      cases read
      rcases eq_append_of_signedDecimal? decimalRead with ⟨offset, rfl, rfl⟩
      rcases eq_append_of_afterBlanks? gapRead with ⟨gap, isGap, rfl⟩
      rcases startsPlusMinus_iff.mp starts with ⟨rest, rfl⟩
      exact ⟨offset, gap, rest, rfl, isGap, rfl⟩

theorem isDispersionChar_of_isBlank {c : Char} (blank : isBlank c = true) :
    isDispersionChar c = false := by
  rw [isDispersionChar, Bool.or_eq_false_iff]
  constructor
  · rw [Bool.eq_false_iff]
    intro digit
    have plain : c.isDigit = true := digit
    have reserved := Color.isReserved_of_isAlphanum (Bool.or_eq_true_iff.mpr (Or.inr plain))
    rw [(Bool.or_eq_false_iff.mp reserved).1] at blank
    cases blank
  · rw [beq_eq_false_iff_ne]
    rintro rfl
    revert blank
    decide

/-- Digits and points after the plus-minus sign and a gap are a dispersion. -/
theorem dispersionAtFront?_append {gap digits rest : List Char} (isGap : IsGap gap)
    (nonempty : digits ≠ []) (each : ∀ c ∈ digits, isDispersionChar c = true)
    (stops : StartsIn isBlank rest) :
    dispersionAtFront? (plusMinus ++ (gap ++ (digits ++ rest))) = some digits := by
  have outside : StartsOutside isDispersionChar rest :=
    fun c first => isDispersionChar_of_isBlank (stops c first)
  have inked : StartsOutside isBlank (digits ++ rest) := by
    rcases List.exists_cons_of_ne_nil nonempty with ⟨c, more, rfl⟩
    rintro _ ⟨⟩
    rw [Bool.eq_false_iff]
    intro blank
    have kept := each c List.mem_cons_self
    rw [isDispersionChar_of_isBlank blank] at kept
    cases kept
  have marked : startsPlusMinus (plusMinus ++ (gap ++ (digits ++ rest))) = true := rfl
  have dropped : (plusMinus ++ (gap ++ (digits ++ rest))).drop 3 = gap ++ (digits ++ rest) := rfl
  simp only [dispersionAtFront?, marked, if_true, dropped, afterBlanks?_append isGap inked,
    Option.bind_eq_bind, Option.bind_some, Text.takeWhile_run each outside,
    List.isEmpty_eq_false_iff.mpr nonempty, Bool.false_eq_true, if_false]

theorem startsPlusMinus_of_dispersionAtFront? {text found : List Char}
    (read : dispersionAtFront? text = some found) : plusMinus <+: text := by
  unfold dispersionAtFront? at read
  split at read
  case isFalse => cases read
  case isTrue starts => exact startsPlusMinus_iff.mp starts

/-! ## In a text -/

section FirstIn

variable {atFront? : List Char → Option (List Char)}

/-- A text in front is passed over if nothing is found at any of its places. -/
theorem firstIn?_append {lead rest : List Char}
    (passed : ∀ part, part <:+ lead → part ≠ [] → atFront? (part ++ rest) = none) :
    firstIn? atFront? (lead ++ rest) = firstIn? atFront? rest := by
  induction lead with
  | nil => rfl
  | cons c lead inductionHypothesis =>
      have here := passed (c :: lead) (List.suffix_refl _) (List.cons_ne_nil c lead)
      have later := inductionHypothesis fun part isPart =>
        passed part (isPart.trans (List.suffix_cons c lead))
      rw [List.cons_append] at here ⊢
      rw [firstIn?, here, later]

theorem firstIn?_of_found {text found : List Char} (nonempty : text ≠ [])
    (read : atFront? text = some found) : firstIn? atFront? text = some found := by
  rcases List.exists_cons_of_ne_nil nonempty with ⟨c, rest, rfl⟩
  rw [firstIn?, read]

/-- What is found in a text is found at the front of some part of it. -/
theorem exists_atFront?_of_firstIn? {text found : List Char}
    (read : firstIn? atFront? text = some found) : ∃ part, atFront? part = some found := by
  induction text with
  | nil => cases read
  | cons c rest inductionHypothesis =>
      rw [firstIn?] at read
      split at read
      case h_1 same => exact ⟨c :: rest, same.trans read⟩
      case h_2 => exact inductionHypothesis read

end FirstIn

/-- A mark without blanks does not reach over the blank that a text ends in. -/
theorem prefix_of_endsIn_blank {mark part rest : List Char} (unblank : ∀ c ∈ mark, isBlank c = false)
    (ends : EndsIn isBlank part) (nonempty : part ≠ []) (reaches : mark <+: part ++ rest) :
    mark <+: part := by
  rcases List.prefix_or_prefix_of_prefix reaches (List.prefix_append part rest) with
    inside | beyond
  · exact inside
  · have last := List.getLast?_eq_some_getLast nonempty
    have blank := ends _ last
    rw [unblank _ (beyond.subset (List.getLast_mem nonempty))] at blank
    cases blank

theorem isBlank_of_mem_plusMinus : ∀ c ∈ plusMinus, isBlank c = false := by
  rw [plusMinus, List.forall_mem_cons, List.forall_mem_cons, List.forall_mem_singleton]
  exact ⟨by decide, by decide, by decide⟩

/-- A text with no plus-minus sign that ends in a blank is passed over, if nothing is found at
the front of such a text. -/
theorem firstIn?_unmarked {atFront? : List Char → Option (List Char)} {lead rest : List Char}
    (unmarked : ¬plusMinus <:+: lead) (ends : EndsIn isBlank lead)
    (passed : ∀ part, part ≠ [] → ¬plusMinus <:+: part → EndsIn isBlank part →
      atFront? (part ++ rest) = none) :
    firstIn? atFront? (lead ++ rest) = firstIn? atFront? rest := by
  apply firstIn?_append
  intro part isPart nonempty
  apply passed part nonempty
  · exact fun marked => unmarked (marked.trans isPart.isInfix)
  · exact ends.of_suffix isPart

end Sntp

end TestSignal
