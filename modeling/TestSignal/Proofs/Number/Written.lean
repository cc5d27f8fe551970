import TestSignal.Expr
import TestSignal.Proofs.Text

namespace TestSignal

/-!
# The characters of written numbers

However a number is written, its text has digits, signs and points, the letter of an
exponent, and the letters of the names of infinity and of what is undefined.  So it can
stand where only a few other characters have a meaning.
-/

/-- A character of a written number. -/
def isNumeral (c : Char) : Bool := c.isDigit || "+-.einfa".toList.contains c

def IsNumeral (text : List Char) : Prop := ∀ c ∈ text, isNumeral c = true

instance (text : List Char) : Decidable (IsNumeral text) :=
  List.decidableBAll (fun c => isNumeral c = true) text

namespace IsNumeral

variable {text left right : List Char}

theorem append (first : IsNumeral left) (second : IsNumeral right) :
    IsNumeral (left ++ right) :=
  List.forall_mem_append.mpr ⟨first, second⟩

theorem cons {c : Char} (first : isNumeral c = true) (rest : IsNumeral text) :
    IsNumeral (c :: text) :=
  List.forall_mem_cons.mpr ⟨first, rest⟩

theorem of_subset (whole : IsNumeral text) (part : left ⊆ text) : IsNumeral left :=
  fun c member => whole c (part member)

theorem zeros (count : Nat) : IsNumeral (List.replicate count '0') := by
  intro c member
  rw [List.eq_of_mem_replicate member]
  rfl

theorem toDigits (n : Nat) : IsNumeral (Nat.toDigits 10 n) := by
  intro c member
  have digit : c.isDigit = true := Nat.isDigit_of_mem_toDigits (by decide) (by decide) member
  unfold isNumeral
  rw [digit]
  rfl

theorem toString_int (value : Int) : IsNumeral (toString value).toList := by
  cases value with
  | ofNat n =>
      change IsNumeral n.repr.toList
      rw [Nat.toList_repr]
      exact toDigits n
  | negSucc n =>
      change IsNumeral ("-" ++ (n + 1).repr).toList
      rw [String.toList_append, Nat.toList_repr]
      exact append (by decide) (toDigits (n + 1))

end IsNumeral

open IsNumeral

/-! ## Decimals -/

namespace Decimal

theorem isNumeral_positional (d : Decimal) : IsNumeral d.positional := by
  have digits : IsNumeral d.digits := toDigits d.coefficient
  unfold positional
  split
  · exact (digits.append (zeros _)).append (by decide)
  · split
    · exact (digits.of_subset (List.take_subset _ _)).append
        ((digits.of_subset (List.drop_subset _ _)).cons rfl)
    · exact (((zeros _).append digits).cons rfl).cons rfl

theorem isNumeral_scientific (d : Decimal) : IsNumeral d.scientific := by
  have digits : IsNumeral d.digits := toDigits d.coefficient
  have first : IsNumeral (d.digits.take 1) := digits.of_subset (List.take_subset 1 _)
  have sign : isNumeral (if d.leading < 0 then '-' else '+') = true := by split <;> rfl
  unfold scientific
  refine ((first.append ?_).append (((zeros _).cons sign).cons rfl)).append (toDigits _)
  split
  · decide
  · exact (digits.of_subset (List.drop_subset 1 _)).cons rfl

theorem isNumeral_toChars (d : Decimal) : IsNumeral d.toChars := by
  unfold toChars
  split
  · exact d.isNumeral_positional
  · exact d.isNumeral_scientific

end Decimal

/-! ## Fixed places -/

namespace FixedDecimal

theorem isNumeral_padDigits (width n : Nat) : IsNumeral (padDigits width n).toList := by
  unfold padDigits
  rw [String.toList_ofList]
  exact (zeros _).append (toDigits n)

theorem isNumeral_toText (d : FixedDecimal) : IsNumeral d.toText.toList := by
  have sign : IsNumeral (if d.negative then "-" else "").toList := by split <;> decide
  have whole := isNumeral_padDigits 1 (d.units / Nat.pow 10 d.places)
  have places := isNumeral_padDigits d.places (d.units % Nat.pow 10 d.places)
  unfold toText
  dsimp only
  split
  · rw [String.toList_append]
    exact sign.append whole
  · rw [String.toList_append, String.toList_append, String.toList_append]
    exact ((sign.append whole).append (by decide)).append places

end FixedDecimal

/-! ## Numbers -/

namespace Binary64

theorem isNumeral_toText (x : Binary64) : IsNumeral x.toText.toList := by
  cases x with
  | finite negative magnitude =>
      have body : IsNumeral
          (if magnitude.val = 0 then ['0', '.', '0']
            else (shortestDecimal magnitude.val).toChars) := by
        split
        · decide
        · exact Decimal.isNumeral_toChars _
      unfold toText
      rw [String.toList_ofList]
      cases negative with
      | true => exact body.cons rfl
      | false => exact body
  | infinite negative => cases negative <;> decide
  | nan => decide

theorem isNumeral_fixedText (places : Nat) (x : Binary64) :
    IsNumeral (x.fixedText places).toList := by
  cases x with
  | finite negative magnitude => exact FixedDecimal.isNumeral_toText _
  | infinite negative => exact isNumeral_toText (infinite negative)
  | nan => exact isNumeral_toText nan

end Binary64

namespace Number

theorem isNumeral_toText (x : Number) : IsNumeral x.toText.toList := by
  cases x with
  | int value => exact toString_int value
  | float x => exact x.isNumeral_toText

theorem isNumeral_toShortText (x : Number) : IsNumeral x.toShortText.toList := by
  cases x with
  | int value => exact toString_int value
  | float x =>
      unfold toShortText
      dsimp only
      split
      · exact toString_int _
      · exact x.isNumeral_toText

end Number

theorem Numeral.isNumeral_toText (numeral : Numeral) : IsNumeral numeral.toText.toList := by
  cases numeral with
  | integer value => exact toString_int value
  | fixed value => exact value.isNumeral_toText
  | shown value => exact value.isNumeral_toText
  | short value => exact value.isNumeral_toShortText

end TestSignal
