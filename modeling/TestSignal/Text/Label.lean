import TestSignal.Text.Digit

namespace TestSignal

namespace Text

/-!
# Numbers inside labels

A level may be given as the label that a menu showed, such as `-6 dBFS`.  The
number meant is the first one in the text: digits of any script, with a minus
sign directly before them and a point with more digits after them, if any.
-/

/-- A point with at least one digit after it. -/
def labelPlaces : List Char → List Char
  | '.' :: rest =>
      let places := rest.takeWhile isDigit
      if places.isEmpty then [] else '.' :: places
  | _ => []

/-- The unsigned number at the front of a text. -/
def unsignedAtFront? (text : List Char) : Option (List Char) :=
  let whole := text.takeWhile isDigit
  if whole.isEmpty then none
  else some (whole ++ labelPlaces (text.dropWhile isDigit))

/-- The number at the front of a text, with its minus sign. -/
def numberAtFront? : List Char → Option (List Char)
  | '-' :: rest => (unsignedAtFront? rest).map ('-' :: ·)
  | text => unsignedAtFront? text

/-- The first number in a text. -/
def firstNumberChars? : List Char → Option (List Char)
  | [] => none
  | c :: rest =>
      match numberAtFront? (c :: rest) with
      | some found => some found
      | none => firstNumberChars? rest

def firstNumber? (text : String) : Option String :=
  (firstNumberChars? text.toList).map String.ofList

end Text

end TestSignal
