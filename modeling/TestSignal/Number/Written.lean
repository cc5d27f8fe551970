import TestSignal.Number.Basic
import TestSignal.Number.Fixed
import TestSignal.Number.Shortest

namespace TestSignal

/-!
# Numbers as text

A binary64 number is written by its shortest decimal.  Between `10 ^ -4` and
`10 ^ 16` the decimal is positional and keeps a place after the point; outside,
it is scientific, with a sign and at least two digits in the exponent.  The
command prints a whole binary64 number as its integer instead, exact to the last
digit, since that is the shortest text that keeps its value.
-/

namespace Decimal

/-- The digits of the coefficient. -/
def digits (d : Decimal) : List Char := Nat.toDigits 10 d.coefficient

/-- The exponent of the first digit. -/
def leading (d : Decimal) : Int := d.exponent + d.digits.length - 1

/-- Digits before the point, a point, and at least one place. -/
def positional (d : Decimal) : List Char :=
  if 0 ≤ d.exponent then d.digits ++ List.replicate d.exponent.toNat '0' ++ ['.', '0']
  else if 0 ≤ d.leading then
    let whole := d.leading.toNat + 1
    d.digits.take whole ++ '.' :: d.digits.drop whole
  else '0' :: '.' :: List.replicate (-d.leading - 1).toNat '0' ++ d.digits

/-- One digit, the others after a point, and the exponent with its sign. -/
def scientific (d : Decimal) : List Char :=
  let places :=
    match d.digits.drop 1 with
    | [] => []
    | rest => '.' :: rest
  let exponent := Nat.toDigits 10 d.leading.natAbs
  let padding := List.replicate (2 - exponent.length) '0'
  d.digits.take 1 ++ places ++ 'e' :: (if d.leading < 0 then '-' else '+') :: padding ++ exponent

/-- Positional for a first digit between the fourth place and the sixteenth digit. -/
def toChars (d : Decimal) : List Char :=
  if -4 ≤ d.leading && d.leading < 16 then d.positional else d.scientific

end Decimal

namespace Binary64

/-- The shortest text that reads back as the number. -/
def toText : Binary64 → String
  | finite negative magnitude =>
      let body :=
        if magnitude.val = 0 then ['0', '.', '0'] else (shortestDecimal magnitude.val).toChars
      String.ofList (if negative then '-' :: body else body)
  | infinite negative => if negative then "-inf" else "inf"
  | nan => "nan"

end Binary64

namespace Number

/-- The text that shows the value and the kind of a number. -/
def toText : Number → String
  | int value => toString value
  | float x => x.toText

/-- The shortest text that keeps the value: a whole number is written as an integer. -/
def toShortText : Number → String
  | int value => toString value
  | float x =>
      match x.integer? with
      | some value => toString value
      | none => x.toText

/-- Fixed decimal places of the binary64 value. -/
def fixedText (places : Nat) (x : Number) : Except Fault String := do
  let value ← x.toBinary64
  return value.fixedText places

end Number

end TestSignal
