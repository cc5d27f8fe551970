import TestSignal.Number.Binary64
import TestSignal.Text.Blank
import TestSignal.Text.Digit

namespace TestSignal

/-!
# Reading a number from text

A number may be typed instead of sent as a number.  Blanks around it are
dropped, a single underscore may stand between two digits, and digits of any
script count as digits.  A decimal number is an optional sign, digits with at
most one point among or beside them, and an optional exponent; the words for
infinity and for no number are read too, in any case.  Everything else, a
number followed by its unit for instance, is not a number.
-/

namespace Reading

/-- The blanks dropped around a number; the separator controls are not among them. -/
def surroundsNumber (c : Char) : Bool :=
  Text.isBlank c && !(28 ≤ c.toNat && c.toNat ≤ 31)

/-- Writes every decimal digit with the ASCII digit of its value. -/
def plainDigit (c : Char) : Char :=
  match Text.digitValue? c with
  | some value => Nat.digitChar value
  | none => c

/--
Removes the underscores that stand between two digits; any other underscore
makes the text unreadable.  The flag tells whether the character before is a
digit.
-/
def dropUnderscores? : Bool → List Char → Option (List Char)
  | _, [] => some []
  | afterDigit, '_' :: c :: rest =>
      if afterDigit && c.isDigit then (dropUnderscores? true rest).map (c :: ·) else none
  | _, c :: rest =>
      if c == '_' then none else (dropUnderscores? c.isDigit rest).map (c :: ·)

/-- The characters that carry the number: trimmed, in ASCII digits, without underscores. -/
def numberChars? (text : String) : Option (List Char) :=
  dropUnderscores? false ((Text.trimBy surroundsNumber text.toList).map plainDigit)

/-- Splits an optional sign off; true means negative. -/
def takeSign : List Char → Bool × List Char
  | '-' :: rest => (true, rest)
  | '+' :: rest => (false, rest)
  | rest => (false, rest)

/-- The value of a run of ASCII digits. -/
def digitsValue (digits : List Char) : Nat :=
  digits.foldl (fun value c => value * 10 + (c.toNat - 48)) 0

/-- An exponent after its mark: a sign and at least one digit, with nothing after them. -/
def exponent? (text : List Char) : Option Int :=
  let (negative, digits) := takeSign text
  if digits.isEmpty || !digits.all Char.isDigit then none
  else some (if negative then -(digitsValue digits : Int) else digitsValue digits)

/-- The part of a decimal number after its sign. -/
def decimal? (negative : Bool) (text : List Char) : Option Binary64 :=
  let whole := text.takeWhile Char.isDigit
  let afterWhole := text.dropWhile Char.isDigit
  let (places, afterPlaces) :=
    match afterWhole with
    | '.' :: rest => (rest.takeWhile Char.isDigit, rest.dropWhile Char.isDigit)
    | rest => ([], rest)
  if whole.isEmpty && places.isEmpty then none
  else
    let coefficient := digitsValue (whole ++ places)
    let shift : Int := places.length
    match afterPlaces with
    | [] => some (Binary64.ofDecimal negative coefficient (-shift))
    | mark :: rest =>
        if mark == 'e' || mark == 'E' then
          (exponent? rest).map fun exponent =>
            Binary64.ofDecimal negative coefficient (exponent - shift)
        else none

/-- The numbers that are written by name. -/
def named? (negative : Bool) (text : List Char) : Option Binary64 :=
  let word := String.ofList (text.map Char.toLower)
  if word = "inf" || word = "infinity" then some (.infinite negative)
  else if word = "nan" then some .nan
  else none

/-- Reads a whole text as a binary64 number, rounding a decimal once. -/
def binary64? (text : String) : Option Binary64 :=
  match numberChars? text with
  | none => none
  | some chars =>
      let (negative, unsigned) := takeSign chars
      match named? negative unsigned with
      | some value => some value
      | none => decimal? negative unsigned

/-- The digits that an integer may be written with. -/
def integerDigitLimit : Nat := 4300

/-- Reads a whole text as an integer: a sign and at least one digit, but not too many. -/
def integer? (text : String) : Option Int :=
  match numberChars? text with
  | none => none
  | some chars =>
      let (negative, digits) := takeSign chars
      if digits.isEmpty || !digits.all Char.isDigit || integerDigitLimit < digits.length then none
      else some (if negative then -(digitsValue digits : Int) else digitsValue digits)

end Reading

end TestSignal
