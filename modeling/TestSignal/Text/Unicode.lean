import TestSignal.Text.Code

namespace TestSignal

namespace Text

/-!
# Text from bytes

A file, a request body or the output of a program is a list of bytes, each
below 256.  UTF-8 is decoded one character at a time, where a byte sequence that
is no character, up to the first byte that shows it, is one unreadable unit.
What becomes of an unreadable unit is the reader's choice: a file with one is
refused, while the output of a program shows the replacement character.

A request body may also be UTF-16 or UTF-32.  There a surrogate without its
partner is let through, since it may stand in JSON text.
-/

/-- The code point that is shown for what cannot be read. -/
def replacement : Nat := 0xFFFD

def isContinuation (byte : Nat) : Bool := 0x80 ≤ byte && byte ≤ 0xBF

/-- The second bytes that can follow a lead byte of a sequence of three or four. -/
def isSecond (surrogates : Bool) (lead byte : Nat) : Bool :=
  isContinuation byte &&
    (if lead = 0xE0 then 0xA0 ≤ byte
    else if lead = 0xED then surrogates || byte ≤ 0x9F
    else if lead = 0xF0 then 0x90 ≤ byte
    else if lead = 0xF4 then byte ≤ 0x8F
    else true)

/-- The code points of UTF-8 text, with nothing for each unreadable unit. -/
def utf8Units (surrogates : Bool) : List Nat → List (Option Nat)
  | [] => []
  | a :: rest =>
      if a < 0x80 then some a :: utf8Units surrogates rest
      else if 0xC2 ≤ a && a ≤ 0xDF then
        match rest with
        | [] => [none]
        | b :: rest =>
            if isContinuation b then
              some ((a - 0xC0) * 64 + (b - 0x80)) :: utf8Units surrogates rest
            else none :: utf8Units surrogates (b :: rest)
      else if 0xE0 ≤ a && a ≤ 0xEF then
        match rest with
        | [] => [none]
        | [b] => if isSecond surrogates a b then [none] else none :: utf8Units surrogates [b]
        | b :: c :: rest =>
            if !isSecond surrogates a b then none :: utf8Units surrogates (b :: c :: rest)
            else if isContinuation c then
              some ((a - 0xE0) * 4096 + (b - 0x80) * 64 + (c - 0x80)) ::
                utf8Units surrogates rest
            else none :: utf8Units surrogates (c :: rest)
      else if 0xF0 ≤ a && a ≤ 0xF4 then
        match rest with
        | [] => [none]
        | [b] => if isSecond surrogates a b then [none] else none :: utf8Units surrogates [b]
        | [b, c] =>
            if !isSecond surrogates a b then none :: utf8Units surrogates [b, c]
            else if isContinuation c then [none]
            else none :: utf8Units surrogates [c]
        | b :: c :: d :: rest =>
            if !isSecond surrogates a b then none :: utf8Units surrogates (b :: c :: d :: rest)
            else if !isContinuation c then none :: utf8Units surrogates (c :: d :: rest)
            else if isContinuation d then
              some ((a - 0xF0) * 262144 + (b - 0x80) * 4096 + (c - 0x80) * 64 + (d - 0x80)) ::
                utf8Units surrogates rest
            else none :: utf8Units surrogates (d :: rest)
      else none :: utf8Units surrogates rest

/-- UTF-8 text without unreadable units. -/
def utf8? (surrogates : Bool) (bytes : List Nat) : Option (List Char) :=
  let units := utf8Units surrogates bytes
  if units.all Option.isSome then some (ofCodes (units.filterMap id)) else none

/-- UTF-8 text in which each unreadable unit shows as the replacement character. -/
def utf8Lossy (bytes : List Nat) : List Char :=
  ofCodes ((utf8Units false bytes).map (·.getD replacement))

/-- Writes every end of a line as a line feed. -/
def plainNewlines : List Char → List Char
  | '\r' :: '\n' :: rest => '\n' :: plainNewlines rest
  | '\r' :: rest => '\n' :: plainNewlines rest
  | c :: rest => c :: plainNewlines rest
  | [] => []

/-! ## Wider units -/

/-- Groups bytes into numbers of two bytes; nothing if one byte is left over. -/
def pairUnits? (bigEndian : Bool) : List Nat → Option (List Nat)
  | [] => some []
  | [_] => none
  | a :: b :: rest =>
      (pairUnits? bigEndian rest).map ((if bigEndian then a * 256 + b else b * 256 + a) :: ·)

/-- The code points of a list of UTF-16 units: surrogate pairs are joined. -/
def joinPairs : List Nat → List Nat
  | high :: low :: rest =>
      if 0xD800 ≤ high && high < 0xDC00 && 0xDC00 ≤ low && low < 0xE000 then
        (0x10000 + (high - 0xD800) * 1024 + (low - 0xDC00)) :: joinPairs rest
      else high :: joinPairs (low :: rest)
  | short => short

def utf16? (bigEndian : Bool) (bytes : List Nat) : Option (List Char) :=
  (pairUnits? bigEndian bytes).map fun units => ofCodes (joinPairs units)

/-- Groups bytes into code points of four bytes, within the range of code points. -/
def quadCodes? (bigEndian : Bool) : List Nat → Option (List Nat)
  | [] => some []
  | a :: b :: c :: d :: rest =>
      let code :=
        if bigEndian then ((a * 256 + b) * 256 + c) * 256 + d
        else ((d * 256 + c) * 256 + b) * 256 + a
      if code < 0x110000 then (quadCodes? bigEndian rest).map (code :: ·) else none
  | _ => none

def utf32? (bigEndian : Bool) (bytes : List Nat) : Option (List Char) :=
  (quadCodes? bigEndian bytes).map ofCodes

end Text

end TestSignal
