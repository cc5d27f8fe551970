import TestSignal.Number.Binary64

namespace TestSignal

/-!
# Fixed decimal places

Times, speeds and offsets are printed with a fixed count of decimal places,
rounded from the exact binary value with ties to the even last digit.  The
sign of a number that rounds to zero stays.
-/

/-- A decimal with a fixed count of places: `units / 10 ^ places`, with a sign. -/
structure FixedDecimal where
  negative : Bool
  units : Nat
  places : Nat
  deriving DecidableEq

namespace FixedDecimal

/-- Digits filled with zeros on the left to at least `width`. -/
def padDigits (width n : Nat) : String :=
  let digits := Nat.toDigits 10 n
  String.ofList (List.replicate (width - digits.length) '0' ++ digits)

/-- The sign, the whole part, and after a point the places, if there are any. -/
def toText (d : FixedDecimal) : String :=
  let sign := if d.negative then "-" else ""
  let whole := padDigits 1 (d.units / Nat.pow 10 d.places)
  if d.places = 0 then sign ++ whole
  else sign ++ whole ++ "." ++ padDigits d.places (d.units % Nat.pow 10 d.places)

end FixedDecimal

namespace Binary64

/-- A finite number rounded to fixed decimal places. -/
def toFixed? (places : Nat) : Binary64 → Option FixedDecimal
  | finite negative magnitude =>
      some
        { negative
          units :=
            Rounding.nearestEven (unitsOfMagnitude magnitude.val * Nat.pow 10 places) unitsPerOne
          places }
  | _ => none

/-- Fixed decimal places; the numbers that are not finite are written by name. -/
def fixedText (places : Nat) (x : Binary64) : String :=
  match x.toFixed? places with
  | some fixed => fixed.toText
  | none =>
      match x with
      | infinite negative => if negative then "-inf" else "inf"
      | _ => "nan"

end Binary64

end TestSignal
