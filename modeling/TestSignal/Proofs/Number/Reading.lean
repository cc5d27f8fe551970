import TestSignal.Number.Reading
import TestSignal.Proofs.Config.Color
import TestSignal.Proofs.Text

namespace TestSignal

/-!
# Decimals are read

A decimal is a sign or none, digits, a point and digits.  The digits may be of any script, and
of several in one number.  Such a text is always a number: it has no blanks at its ends to
drop, no underscore to refuse, and it is no word for infinity.  Its value is that of its digits,
rounded once to binary64.
-/

/-! ## Digits of any script -/

namespace Text

theorem isBlank_of_isDigit {c : Char} (digit : isDigit c = true) : isBlank c = false :=
  (Bool.or_eq_false_iff.mp (Color.isReserved_of_isDigit digit)).1

theorem ne_of_isDigit {c other : Char} (digit : isDigit c = true) (mark : isDigit other = false) :
    c ≠ other := by
  rintro rfl
  rw [digit] at mark
  cases mark

/-- Digits, and at least one. -/
structure IsDigits (text : List Char) : Prop where
  nonempty : text ≠ []
  digits : ∀ c ∈ text, isDigit c = true

end Text

namespace Reading

open Text (IsDigits StartsOutside)

/-- A digit of any script is written as the ASCII digit of its value. -/
theorem isDigit_plainDigit {c : Char} (digit : Text.isDigit c = true) :
    (plainDigit c).isDigit = true := by
  have table : ∀ value < 10, (Nat.digitChar value).isDigit = true := by decide
  rcases Option.isSome_iff_exists.mp digit with ⟨value, found⟩
  have small : value < 10 := by
    unfold Text.digitValue? at found
    rcases Option.map_eq_some_iff.mp found with ⟨start, isStart, rfl⟩
    have bounds := List.find?_some isStart
    simp only [Bool.and_eq_true, decide_eq_true_eq] at bounds
    omega
  simp only [plainDigit, found, table value small]

theorem plainDigit_of_not_isDigit {c : Char} (other : Text.isDigit c = false) :
    plainDigit c = c := by
  have unknown : Text.digitValue? c = none :=
    Option.isNone_iff_eq_none.mp (Option.isSome_eq_false_iff.mp other)
  simp only [plainDigit, unknown]

theorem surroundsNumber_of_not_isBlank {c : Char} (ink : Text.isBlank c = false) :
    surroundsNumber c = false := by
  rw [surroundsNumber, ink, Bool.false_and]

/-- A text without underscores is kept as it is. -/
theorem dropUnderscores?_of_not_mem {text : List Char} (absent : '_' ∉ text) (afterDigit : Bool) :
    dropUnderscores? afterDigit text = some text := by
  induction text generalizing afterDigit with
  | nil => rfl
  | cons c text inductionHypothesis =>
      rw [List.mem_cons, not_or] at absent
      rw [dropUnderscores?.eq_3 _ _ _ fun _ _ same _ => absent.1 same.symm,
        if_neg fun same => absent.1 (beq_iff_eq.mp same).symm, inductionHypothesis absent.2]
      rfl

/-- A text that begins with a digit is not a word for a number. -/
theorem named?_of_isDigit (negative : Bool) {c : Char} (digit : c.isDigit = true)
    (rest : List Char) : named? negative (c :: rest) = none := by
  have unlike : c.toLower ≠ 'i' ∧ c.toLower ≠ 'n' :=
    Text.ofAscii (fun c => c.isDigit = true → c.toLower ≠ 'i' ∧ c.toLower ≠ 'n')
      (by decide +kernel) (Text.toNat_lt_of_isDigit digit) digit
  have other : ∀ {word : String}, word.toList.head? = some 'i' ∨ word.toList.head? = some 'n' →
      String.ofList ((c :: rest).map Char.toLower) ≠ word := by
    rintro word begins rfl
    rw [String.toList_ofList] at begins
    rcases begins with first | first
    · exact unlike.1 (Option.some.inj first)
    · exact unlike.2 (Option.some.inj first)
  have infinite := @other "inf" (.inl rfl)
  have infinity := @other "infinity" (.inl rfl)
  have undefined := @other "nan" (.inr rfl)
  simp only [named?, infinite, infinity, undefined, decide_false, Bool.or_self,
    Bool.false_eq_true, if_false]

/-! ## Decimals -/

/-- A decimal as it may be written. -/
structure DecimalText where
  sign : List Char
  whole : List Char
  places : List Char
  isSign : sign = [] ∨ sign = ['+'] ∨ sign = ['-']
  isWhole : IsDigits whole
  isPlaces : IsDigits places

namespace DecimalText

def chars (decimal : DecimalText) : List Char :=
  decimal.sign ++ decimal.whole ++ '.' :: decimal.places

def negative (decimal : DecimalText) : Bool := decimal.sign == ['-']

/-- The number made of all digits of a decimal. -/
def coefficient (decimal : DecimalText) : Nat :=
  digitsValue ((decimal.whole ++ decimal.places).map plainDigit)

/-- The value of a decimal, rounded once. -/
def value (decimal : DecimalText) : Binary64 :=
  Binary64.ofDecimal decimal.negative decimal.coefficient (-(decimal.places.length : Int))

variable (decimal : DecimalText)

/-- A character of a decimal is a digit, a sign or the point. -/
theorem mem_chars {c : Char} (member : c ∈ decimal.chars) :
    Text.isDigit c = true ∨ c = '+' ∨ c = '-' ∨ c = '.' := by
  simp only [chars, List.mem_append, List.mem_cons] at member
  rcases member with (inSign | inWhole) | isPoint | inPlaces
  · rcases decimal.isSign with same | same | same
    · rw [same] at inSign
      exact absurd inSign List.not_mem_nil
    · rw [same, List.mem_singleton] at inSign
      exact .inr (.inl inSign)
    · rw [same, List.mem_singleton] at inSign
      exact .inr (.inr (.inl inSign))
  · exact .inl (decimal.isWhole.digits c inWhole)
  · exact .inr (.inr (.inr isPoint))
  · exact .inl (decimal.isPlaces.digits c inPlaces)

theorem isBlank_of_mem {c : Char} (member : c ∈ decimal.chars) : Text.isBlank c = false := by
  rcases decimal.mem_chars member with digit | rfl | rfl | rfl
  · exact Text.isBlank_of_isDigit digit
  · decide
  · decide
  · decide

theorem not_mem_chars {c : Char} (digit : Text.isDigit c = false)
    (mark : c ≠ '+' ∧ c ≠ '-' ∧ c ≠ '.') : c ∉ decimal.chars := by
  intro member
  rcases decimal.mem_chars member with isDigit | isMark | isMark | isMark
  · exact Text.ne_of_isDigit isDigit digit rfl
  · exact mark.1 isMark
  · exact mark.2.1 isMark
  · exact mark.2.2 isMark

theorem chars_ne_nil : decimal.chars ≠ [] := by
  simp [chars]

/-- Nothing is taken off a decimal, and its digits become ASCII digits. -/
theorem numberChars?_chars : numberChars? (String.ofList decimal.chars) =
    some (decimal.sign ++
      (decimal.whole.map plainDigit ++ '.' :: decimal.places.map plainDigit)) := by
  have stays : ∀ c ∈ decimal.chars, surroundsNumber c = false :=
    fun c member => surroundsNumber_of_not_isBlank (decimal.isBlank_of_mem member)
  have trimmed : Text.trimBy surroundsNumber decimal.chars = decimal.chars :=
    Text.trimBy_of_ends (fun c first => stays c (List.mem_of_mem_head? first))
      (fun c last => stays c (List.mem_of_getLast? last))
  have sign : decimal.sign.map plainDigit = decimal.sign := by
    rcases decimal.isSign with same | same | same <;> rw [same] <;> decide
  have point : plainDigit '.' = '.' := plainDigit_of_not_isDigit (by decide)
  have plain : decimal.chars.map plainDigit = decimal.sign ++
      (decimal.whole.map plainDigit ++ '.' :: decimal.places.map plainDigit) := by
    simp only [chars, List.map_append, List.map_cons, sign, point, List.append_assoc]
  have absent : '_' ∉ decimal.chars.map plainDigit := by
    intro member
    rcases List.mem_map.mp member with ⟨c, inChars, same⟩
    cases digit : Text.isDigit c with
    | true =>
        have written := isDigit_plainDigit digit
        rw [same] at written
        cases written
    | false =>
        rw [plainDigit_of_not_isDigit digit] at same
        rw [same] at inChars
        exact decimal.not_mem_chars (by decide) (by decide) inChars
  rw [numberChars?, String.toList_ofList, trimmed, dropUnderscores?_of_not_mem absent, plain]

theorem takeSign_append {rest : List Char} (unsigned : ∀ c ∈ rest.head?, c ≠ '+' ∧ c ≠ '-') :
    takeSign (decimal.sign ++ rest) = (decimal.negative, rest) := by
  rcases decimal.isSign with same | same | same
  · rw [negative, same, List.nil_append]
    cases rest with
    | nil => rfl
    | cons c rest =>
        have other := unsigned c rfl
        rw [takeSign.eq_3]
        · rfl
        · intro _ begins
          exact other.2 (List.cons.inj begins).1
        · intro _ begins
          exact other.1 (List.cons.inj begins).1
  · rw [negative, same]
    rfl
  · rw [negative, same]
    rfl

/-- The digits after the sign are read up to the point, and then up to the end. -/
theorem decimal?_digits {whole places : List Char} (negative : Bool) (nonempty : whole ≠ [])
    (areWhole : ∀ c ∈ whole, c.isDigit = true) (arePlaces : ∀ c ∈ places, c.isDigit = true) :
    decimal? negative (whole ++ '.' :: places) =
      some (Binary64.ofDecimal negative (digitsValue (whole ++ places))
        (-(places.length : Int))) := by
  have atPoint : StartsOutside Char.isDigit ('.' :: places) := by
    rintro c ⟨⟩
    rfl
  have atEnd : StartsOutside Char.isDigit [] := nofun
  have cutPlaces := Text.takeWhile_run arePlaces atEnd
  have afterPlaces := Text.dropWhile_run arePlaces atEnd
  rw [List.append_nil] at cutPlaces afterPlaces
  have present : whole.isEmpty = false := List.isEmpty_eq_false_iff.mpr nonempty
  simp only [decimal?, Text.takeWhile_run areWhole atPoint, Text.dropWhile_run areWhole atPoint,
    cutPlaces, afterPlaces, present, Bool.false_and, Bool.false_eq_true, if_false]

/-- A decimal is read as its value. -/
theorem binary64?_chars : binary64? (String.ofList decimal.chars) = some decimal.value := by
  have areWhole : ∀ c ∈ decimal.whole.map plainDigit, c.isDigit = true :=
    List.forall_mem_map.mpr fun c member => isDigit_plainDigit (decimal.isWhole.digits c member)
  have arePlaces : ∀ c ∈ decimal.places.map plainDigit, c.isDigit = true :=
    List.forall_mem_map.mpr fun c member => isDigit_plainDigit (decimal.isPlaces.digits c member)
  have nonempty : decimal.whole.map plainDigit ≠ [] := by
    simpa using decimal.isWhole.nonempty
  rcases List.exists_cons_of_ne_nil nonempty with ⟨first, more, begins⟩
  have digit : first.isDigit = true := areWhole first (begins ▸ List.mem_cons_self)
  have unsigned : ∀ c ∈ (decimal.whole.map plainDigit ++
      '.' :: decimal.places.map plainDigit).head?, c ≠ '+' ∧ c ≠ '-' := by
    rw [begins]
    rintro c ⟨⟩
    constructor <;> (rintro rfl; cases digit)
  have unnamed := named?_of_isDigit decimal.negative digit
    (more ++ '.' :: decimal.places.map plainDigit)
  rw [← List.cons_append, ← begins] at unnamed
  simp only [binary64?, decimal.numberChars?_chars, decimal.takeSign_append unsigned, unnamed,
    decimal?_digits decimal.negative nonempty areWhole arePlaces, value, coefficient,
    List.map_append, List.length_map]

end DecimalText

end Reading

end TestSignal
