import TestSignal.Host
import TestSignal.Number.Fixed
import TestSignal.Number.Reading

namespace TestSignal

/-!
# Asking a time server

The time client prints, in its last line, the offset of the local clock in
seconds and after a plus-minus sign its uncertainty.  The offset is the first
decimal number of the line that has blanks and the sign after it; dates, times
and zones before it are no such numbers.  An uncertainty that is no number counts
as unknown.
-/

namespace Sntp

/-- One reading of a server. -/
structure Measurement where
  source : String
  offsetMs : Number
  dispersionMs : Option Number
  timestampMs : Number
  deriving DecidableEq

/-- The text after at least one blank. -/
def afterBlanks? (text : List Char) : Option (List Char) :=
  match text with
  | c :: rest => if Text.isBlank c then some (rest.dropWhile Text.isBlank) else none
  | [] => none

def startsPlusMinus (text : List Char) : Bool := text.take 3 == ['+', '/', '-']

/-- Digits, a point and digits, and the text after them. -/
def unsignedDecimal? (text : List Char) : Option (List Char × List Char) :=
  let whole := text.takeWhile Text.isDigit
  match text.dropWhile Text.isDigit with
  | '.' :: rest =>
      let places := rest.takeWhile Text.isDigit
      if whole.isEmpty || places.isEmpty then none
      else some (whole ++ '.' :: places, rest.dropWhile Text.isDigit)
  | _ => none

/-- A decimal with an optional sign, and the text after it. -/
def signedDecimal? (text : List Char) : Option (List Char × List Char) :=
  match text with
  | c :: rest =>
      if c == '+' || c == '-' then
        (unsignedDecimal? rest).map fun (digits, after) => (c :: digits, after)
      else unsignedDecimal? text
  | [] => none

/-- An offset at the front of a text: a decimal, blanks and the plus-minus sign. -/
def offsetAtFront? (text : List Char) : Option (List Char) := do
  let (offset, rest) ← signedDecimal? text
  let after ← afterBlanks? rest
  if startsPlusMinus after then some offset else none

/-- What is found at the first place of a text where something is found. -/
def firstIn? (atFront? : List Char → Option (List Char)) : List Char → Option (List Char)
  | [] => none
  | c :: rest =>
      match atFront? (c :: rest) with
      | some found => some found
      | none => firstIn? atFront? rest

/-- The first offset in a line. -/
def offsetIn? : List Char → Option (List Char) := firstIn? offsetAtFront?

def isDispersionChar (c : Char) : Bool := ('0' ≤ c && c ≤ '9') || c == '.'

/-- A dispersion at the front of a text: the plus-minus sign, blanks, digits and points. -/
def dispersionAtFront? (text : List Char) : Option (List Char) := do
  if startsPlusMinus text then
    let after ← afterBlanks? (text.drop 3)
    let digits := after.takeWhile isDispersionChar
    if digits.isEmpty then none else some digits
  else none

/-- The first dispersion in a line. -/
def dispersionIn? : List Char → Option (List Char) := firstIn? dispersionAtFront?

/-- The offset and the dispersion in seconds of a data line. -/
def readLine? (line : String) : Option (Binary64 × Option Binary64) := do
  let offset ← offsetIn? line.toList
  let seconds ← Reading.binary64? (String.ofList offset)
  let dispersion :=
    (dispersionIn? line.toList).bind fun digits => Reading.binary64? (String.ofList digits)
  return (seconds, dispersion)

/-- The last line that is not blank. -/
def dataLine? (output : String) : Option String :=
  ((Text.lines (Text.trim output)).filter Text.hasInk).getLast?

/-- The offset and the dispersion of the last line that is not blank. -/
def readOutput? (output : String) : Option (Binary64 × Option Binary64) := do
  let line ← dataLine? output
  readLine? line

/-- The seconds that the time client may take. -/
def querySeconds : Nat := 7

/-- Seconds as milliseconds. -/
def millis (seconds : Binary64) : Number :=
  .float (seconds.mul (Binary64.ofDecimal false 1000 0))

/-- Asks a server; no measurement when its answer is unusable. -/
def query (clientPath server : String) (nowMs : Number) : HostRun (Option Measurement) := do
  let (code, output) ← HostRun.start [clientPath, server] querySeconds
  if code ≠ 0 then return none
  else
    match readOutput? output with
    | none => return none
    | some (offset, dispersion) =>
        return some {
          source := server
          offsetMs := millis offset
          dispersionMs := dispersion.map millis
          timestampMs := nowMs }

end Sntp

end TestSignal
