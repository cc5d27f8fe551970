namespace TestSignal

namespace Text

/-!
# Hexadecimal digits

Escapes and encoded characters are told by hexadecimal digits.  They are written
in lower case and read in either case.
-/

/-- The lower-case hexadecimal digits of `n`, filled with zeros to `width`. -/
def hexDigits (width n : Nat) : List Char :=
  let digits := Nat.toDigits 16 n
  List.replicate (width - digits.length) '0' ++ digits

/-- The value of a hexadecimal digit. -/
def hexValue? (c : Char) : Option Nat :=
  if '0' ≤ c && c ≤ '9' then some (c.toNat - 48)
  else if 'a' ≤ c && c ≤ 'f' then some (c.toNat - 87)
  else if 'A' ≤ c && c ≤ 'F' then some (c.toNat - 55)
  else none

def isHexDigit (c : Char) : Bool := (hexValue? c).isSome

/-- The digits of a number are read back as its parts. -/
example : (hexDigits 4 0x2A7).map hexValue? = [some 0, some 2, some 10, some 7] := by decide

end Text

end TestSignal
