import TestSignal.Text.Hex
import TestSignal.Text.Unicode
import TestSignal.Value

namespace TestSignal

namespace Json

/-!
# Reading JSON

A configuration file and the body of a request are JSON.  Beyond the standard,
the words `NaN`, `Infinity` and `-Infinity` are numbers.  A number with a point
or an exponent is a binary64 number and any other an exact integer; an integer
of more than 4300 digits is refused.  A repeated key keeps its first place and
its last value.

The reader walks the characters once.  Lists and objects may stand in one another
up to a fixed number of levels.
-/

def isSpace (c : Char) : Bool := c == ' ' || c == '\t' || c == '\n' || c == '\r'

def skipSpace (text : List Char) : List Char := text.dropWhile isSpace

/-! ## Strings -/

/-- The value of four hexadecimal digits. -/
def fourHex? (a b c d : Char) : Option Nat := do
  let a ← Text.hexValue? a
  let b ← Text.hexValue? b
  let c ← Text.hexValue? c
  let d ← Text.hexValue? d
  return ((a * 16 + b) * 16 + c) * 16 + d

/-- The character of an escape letter, the four-digit escape aside. -/
def shortEscape? (c : Char) : Option Char :=
  if c == '\x22' || c == '\x5c' || c == '/' then some c
  else if c == 'b' then some '\x08'
  else if c == 'f' then some '\x0c'
  else if c == 'n' then some '\n'
  else if c == 'r' then some '\r'
  else if c == 't' then some '\t'
  else none

/-- The UTF-16 units of a string after its opening quote, and the rest of the text. -/
def stringUnits? : List Nat → List Char → Option (List Nat × List Char)
  | _, [] => none
  | units, '\x22' :: rest => some (units.reverse, rest)
  | units, '\x5c' :: 'u' :: a :: b :: c :: d :: rest =>
      match fourHex? a b c d with
      | some code => stringUnits? (code :: units) rest
      | none => none
  | units, '\x5c' :: c :: rest =>
      match shortEscape? c with
      | some plain => stringUnits? (plain.toNat :: units) rest
      | none => none
  | units, c :: rest =>
      if c.toNat < 0x20 || c == '\x5c' then none else stringUnits? (c.toNat :: units) rest

/-- A unit of a string: a character of the text, or what an escape names. -/
def unitChars (unit : Nat) : List Char :=
  if Text.isSurrogate unit then Text.charsOfCode unit else [Char.ofNat unit]

/--
Joins the surrogates written as neighbouring escapes.  A character of the text
stands in the list as itself and is no surrogate, so it is never joined.
-/
def joinUnits : List Nat → List Char
  | high :: low :: rest =>
      if 0xD800 ≤ high && high < 0xDC00 && 0xDC00 ≤ low && low < 0xE000 then
        Text.charsOfCode (0x10000 + (high - 0xD800) * 1024 + (low - 0xDC00)) ++ joinUnits rest
      else unitChars high ++ joinUnits (low :: rest)
  | [unit] => unitChars unit
  | [] => []

def string? (text : List Char) : Option (String × List Char) :=
  (stringUnits? [] text).map fun (units, rest) => (String.ofList (joinUnits units), rest)

/-! ## Numbers -/

/-- Drops a fixed word from the front of the text. -/
def dropWord? (word : List Char) (text : List Char) : Option (List Char) :=
  if text.take word.length == word then some (text.drop word.length) else none

/-- The digits after a point, if the text goes on with a point and a digit. -/
def takePlaces (text : List Char) : List Char × List Char :=
  match text with
  | '.' :: rest =>
      let places := rest.takeWhile Char.isDigit
      if places.isEmpty then ([], text) else (places, rest.dropWhile Char.isDigit)
  | _ => ([], text)

/-- The exponent, if the text goes on with a mark, an optional sign and a digit. -/
def takeExponent (text : List Char) : Option Int × List Char :=
  match text with
  | mark :: rest =>
      if mark == 'e' || mark == 'E' then
        let (negative, unsigned) := Reading.takeSign rest
        let digits := unsigned.takeWhile Char.isDigit
        if digits.isEmpty then (none, text)
        else
          let size : Int := Reading.digitsValue digits
          (some (if negative then -size else size), unsigned.dropWhile Char.isDigit)
      else (none, text)
  | [] => (none, text)

/-- The digits before the point: a single zero, or digits that start with another. -/
def takeWhole (text : List Char) : List Char × List Char :=
  match text with
  | '0' :: rest => (['0'], rest)
  | _ => (text.takeWhile Char.isDigit, text.dropWhile Char.isDigit)

def number? (text : List Char) : Except Fault (Number × List Char) :=
  let (negative, unsigned) :=
    match text with
    | '-' :: rest => (true, rest)
    | _ => (false, text)
  let (whole, afterWhole) := takeWhole unsigned
  if whole.isEmpty then .error .malformedJson
  else
    let (places, afterPlaces) := takePlaces afterWhole
    let (exponent, rest) := takeExponent afterPlaces
    if places.isEmpty && exponent.isNone then
      if Reading.integerDigitLimit < whole.length then .error (.integerTextTooLong whole.length)
      else
        let size : Int := Reading.digitsValue whole
        .ok (.int (if negative then -size else size), rest)
    else
      let coefficient := Reading.digitsValue (whole ++ places)
      let shift : Int := places.length
      .ok (.float (Binary64.ofDecimal negative coefficient (exponent.getD 0 - shift)), rest)

/-! ## Values -/

/-- The values that are written as a word. -/
def word? (text : List Char) : Option (Value × List Char) :=
  let named (word : String) (value : Value) : Option (Value × List Char) :=
    (dropWord? word.toList text).map fun rest => (value, rest)
  (named "null" .null).orElse fun _ =>
  (named "true" (.bool true)).orElse fun _ =>
  (named "false" (.bool false)).orElse fun _ =>
  (named "NaN" (.number (.float .nan))).orElse fun _ =>
  (named "Infinity" (.number (.float (.infinite false)))).orElse fun _ =>
  named "-Infinity" (.number (.float (.infinite true)))

/-- How many lists and objects may stand in one another. -/
def nestingLimit : Nat := 985

mutual

/--
A value at the front of the text, and the rest of the text.  The first number
bounds the work, the second the levels that may still open.
-/
def value? : Nat → Nat → List Char → Except Fault (Value × List Char)
  | 0, _, _ => .error .malformedJson
  | fuel + 1, levels, text =>
      match text with
      | '\x22' :: rest =>
          match string? rest with
          | some (content, rest) => .ok (.string content, rest)
          | none => .error .malformedJson
      | '[' :: rest =>
          if levels = 0 then .error (.nestedTooDeeply true)
          else
            match skipSpace rest with
            | ']' :: rest => .ok (.list [], rest)
            | rest => do
                let (items, rest) ← items? fuel (levels - 1) [] rest
                return (.list items, rest)
      | '\x7b' :: rest =>
          if levels = 0 then .error (.nestedTooDeeply false)
          else
            match skipSpace rest with
            | '\x7d' :: rest => .ok (.object [], rest)
            | rest => do
                let (entries, rest) ← entries? fuel (levels - 1) [] rest
                return (.object (Value.collectEntries entries), rest)
      | _ =>
          match word? text with
          | some read => .ok read
          | none => do
              let (number, rest) ← number? text
              return (.number number, rest)

/-- The items of a list after its first bracket, of which at least one must follow. -/
def items? : Nat → Nat → List Value → List Char → Except Fault (List Value × List Char)
  | 0, _, _, _ => .error .malformedJson
  | fuel + 1, levels, items, text => do
      let (item, rest) ← value? fuel levels text
      match skipSpace rest with
      | ',' :: rest => items? fuel levels (item :: items) (skipSpace rest)
      | ']' :: rest => .ok ((item :: items).reverse, rest)
      | _ => .error .malformedJson

/-- The entries of an object after its first brace, of which at least one must follow. -/
def entries? : Nat → Nat → List (String × Value) → List Char →
    Except Fault (List (String × Value) × List Char)
  | 0, _, _, _ => .error .malformedJson
  | fuel + 1, levels, entries, text =>
      match text with
      | '\x22' :: rest =>
          match string? rest with
          | none => .error .malformedJson
          | some (key, rest) =>
              match skipSpace rest with
              | ':' :: rest => do
                  let (value, rest) ← value? fuel levels (skipSpace rest)
                  match skipSpace rest with
                  | ',' :: rest => entries? fuel levels ((key, value) :: entries) (skipSpace rest)
                  | '\x7d' :: rest => .ok (((key, value) :: entries).reverse, rest)
                  | _ => .error .malformedJson
              | _ => .error .malformedJson
      | _ => .error .malformedJson

end

/-- Reads a whole text as one value. -/
def ofChars (text : List Char) : Except Fault Value := do
  let (value, rest) ← value? (text.length + 1) nestingLimit (skipSpace text)
  if (skipSpace rest).isEmpty then return value else .error .malformedJson

/-- Reads a text whose characters all stand for themselves. -/
def ofText (text : String) : Except Fault Value := ofChars (Text.ofPlain text).toList

/-! ## Bytes of a request -/

/--
Decodes the bytes of a JSON text.  A byte order mark names the encoding;
without one, the places of the zero bytes among the first four do, since JSON
starts with ASCII characters.
-/
def decode? (bytes : List Nat) : Option (List Char) :=
  match bytes with
  | 0x00 :: 0x00 :: 0xFE :: 0xFF :: rest => Text.utf32? true rest
  | 0xFF :: 0xFE :: 0x00 :: 0x00 :: rest => Text.utf32? false rest
  | 0xFE :: 0xFF :: rest => Text.utf16? true rest
  | 0xFF :: 0xFE :: rest => Text.utf16? false rest
  | 0xEF :: 0xBB :: 0xBF :: rest => Text.utf8? true rest
  | a :: b :: c :: d :: _ =>
      if a = 0 then (if b = 0 then Text.utf32? true bytes else Text.utf16? true bytes)
      else if b = 0 then
        (if c = 0 && d = 0 then Text.utf32? false bytes else Text.utf16? false bytes)
      else Text.utf8? true bytes
  | [a, b] =>
      if a = 0 then Text.utf16? true bytes
      else if b = 0 then Text.utf16? false bytes
      else Text.utf8? true bytes
  | _ => Text.utf8? true bytes

def ofBytes (bytes : List Nat) : Except Fault Value :=
  match decode? bytes with
  | some text => ofChars text
  | none => .error .undecodableBytes

end Json

end TestSignal
