import TestSignal.Fault
import TestSignal.Number.Binary64

namespace TestSignal

/-!
# Numbers of a configuration

A number is either an exact integer of any size or a binary64 number, and which
of the two it is can be seen in what is printed: `80` and `80.0` are equal and
print differently.  Arithmetic between integers stays exact; as soon as a
binary64 number takes part, the integer is converted first, and an integer
beyond the finite binary64 numbers is a fault.  Comparison never converts and is
exact across both kinds.
-/

inductive Number where
  | int (value : Int)
  | float (value : Binary64)
  deriving DecidableEq

namespace Number

/-- An integer literal is an exact integer. -/
instance (n : Nat) : OfNat Number n := ⟨int n⟩

instance : Inhabited Number := ⟨0⟩

/-- A decimal literal `coefficient / 10 ^ places`, rounded to binary64. -/
def decimal (coefficient : Nat) (places : Nat) : Number :=
  float (Binary64.ofDecimal false coefficient (-(places : Int)))

/-! ## Kinds and conversions -/

/-- The binary64 number nearest to a number. -/
def toBinary64 : Number → Except Fault Binary64
  | int value => (Binary64.ofInt? value).elim (.error .integerTooLarge) .ok
  | float x => .ok x

/-- Whether a number is neither infinite nor undefined, asked of its binary64 value. -/
def isFinite (x : Number) : Except Fault Bool := do
  let value ← x.toBinary64
  return value.isFinite

/-! ## Exact comparison -/

/-- Where a number stands on the line: a count of units, an end of the line, or nowhere. -/
inductive Place where
  | below
  | at (units : Int)
  | above
  | nowhere

def place : Number → Place
  | int value => .at (value * unitsPerOne)
  | float (.finite negative magnitude) =>
      let size : Int := Binary64.unitsOfMagnitude magnitude.val
      .at (if negative then -size else size)
  | float (.infinite negative) => if negative then .below else .above
  | float .nan => .nowhere

/-- Exact strict order; an undefined number is in order with none. -/
def lt (x y : Number) : Bool :=
  match x.place, y.place with
  | .nowhere, _ => false
  | _, .nowhere => false
  | .at a, .at b => decide (a < b)
  | .below, .below => false
  | .below, _ => true
  | .at _, .above => true
  | _, _ => false

/-- Exact equality of value; both zeros are equal, an undefined number equals none. -/
def same (x y : Number) : Bool :=
  match x.place, y.place with
  | .at a, .at b => decide (a = b)
  | .below, .below => true
  | .above, .above => true
  | _, _ => false

def le (x y : Number) : Bool := x.lt y || x.same y

/-- The greater of two numbers, and the first of two equal ones. -/
def max (x y : Number) : Number := if x.lt y then y else x

/-- The lesser of two numbers, and the first of two equal ones. -/
def min (x y : Number) : Number := if y.lt x then y else x

/-- Brings a number between two bounds; a bound it equals takes its place. -/
def clamp (value low high : Number) : Number := max low (min high value)

def isZero (x : Number) : Bool := x.same 0

/-! ## Arithmetic -/

def add : Number → Number → Except Fault Number
  | int a, int b => .ok (int (a + b))
  | x, y => do
      let a ← x.toBinary64
      let b ← y.toBinary64
      return float (a.add b)

def sub : Number → Number → Except Fault Number
  | int a, int b => .ok (int (a - b))
  | x, y => do
      let a ← x.toBinary64
      let b ← y.toBinary64
      return float (a.sub b)

def mul : Number → Number → Except Fault Number
  | int a, int b => .ok (int (a * b))
  | x, y => do
      let a ← x.toBinary64
      let b ← y.toBinary64
      return float (a.mul b)

/--
The binary64 quotient.  Of two integers the exact quotient is rounded, so large
integers lose nothing on the way.  The library divides by fixed positive numbers
only.
-/
def div : Number → Number → Except Fault Number
  | int a, int b =>
      match Binary64.ofQuotient (decide (a < 0) != decide (b < 0)) (a.natAbs * unitsPerOne)
          b.natAbs with
      | .finite negative magnitude => .ok (float (.finite negative magnitude))
      | _ => .error .quotientTooLarge
  | x, y => do
      let a ← x.toBinary64
      let b ← y.toBinary64
      return float (a.div b)

/-- Rounds to decimal places; an integer has none to lose. -/
def roundPlaces (places : Nat) : Number → Number
  | int value => int value
  | float x => float (x.roundPlaces places)

/-! ## Integers from numbers -/

/-- The integer below a binary64 number. -/
def floorInteger (x : Binary64) : Except Fault Int :=
  match x.floor? with
  | some value => .ok value
  | none => .error (if x = .nan then .undefinedInteger else .infiniteInteger)

/-- One half, the tie of rounding up. -/
def half : Binary64 := Binary64.ofDecimal false 5 (-1)

/--
Rounds half up, as the control panel does: one half is added in binary64 and the
sum is cut down to the integer below, so `2.5` gives `3` and `-2.5` gives `-2`.
-/
def roundHalfUp (x : Number) : Except Fault Int := do
  let value ← x.toBinary64
  floorInteger (value.add half)

end Number

end TestSignal
