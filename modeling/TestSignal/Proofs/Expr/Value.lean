import Mathlib.Data.Rat.Floor
import TestSignal.Expr

namespace TestSignal

/-!
# The value of an expression

The engine evaluates an expression while it runs.  Here an expression is evaluated
exactly, over the rationals: the remainder is `x - y * ⌊x / y⌋`, a comparison gives one or
zero, and a choice takes its second argument unless the first is zero.  A numeral has the
value of the decimal that is written for it.

Not every expression has a rational value.  A sine has none, nor has a division by zero, and
a symbol has the value that the engine assigns to it, if it assigns one.
-/

/-! ## Numerals -/

namespace FixedDecimal

def value (d : FixedDecimal) : ℚ :=
  let size : ℚ := d.units / 10 ^ d.places
  if d.negative then -size else size

theorem abs_value (d : FixedDecimal) : |d.value| = d.units / 10 ^ d.places := by
  have nonneg : (0 : ℚ) ≤ d.units / 10 ^ d.places := by positivity
  unfold value
  dsimp only
  split
  · rw [abs_neg, abs_of_nonneg nonneg]
  · exact abs_of_nonneg nonneg

end FixedDecimal

namespace Binary64

/-- The value of the shortest text of a finite number. -/
def writtenValue? : Binary64 → Option ℚ
  | finite negative magnitude =>
      let decimal := shortestDecimal magnitude.val
      let size : ℚ :=
        if magnitude.val = 0 then 0 else decimal.coefficient * 10 ^ decimal.exponent
      some (if negative then -size else size)
  | _ => none

end Binary64

namespace Numeral

def value? : Numeral → Option ℚ
  | integer value => some value
  | fixed value => some value.value
  | shown (.int value) | short (.int value) => some value
  | shown (.float x) => x.writtenValue?
  | short (.float x) => (x.integer?.map fun value => (value : ℚ)).orElse fun _ => x.writtenValue?

end Numeral

/-! ## Functions -/

namespace Function

def value? : Function → ℚ → Option ℚ
  | floor, x => some ⌊x⌋
  | abs, x => some |x|
  | sin, _ => none

end Function

namespace Function2

def ofTruth (holds : Bool) : ℚ := if holds then 1 else 0

def value? : Function2 → ℚ → ℚ → Option ℚ
  | mod, x, y => if y = 0 then none else some (x - y * ⌊x / y⌋)
  | lt, x, y => some (ofTruth (x < y))
  | gt, x, y => some (ofTruth (y < x))
  | eq, x, y => some (ofTruth (x = y))

end Function2

namespace Expr

/-- The value of an expression under the engine's assignment of values to symbols. -/
def value? (assign : String → Option ℚ) : Expr → Option ℚ
  | numeral value => value.value?
  | symbol text => assign text
  | paren inner => inner.value? assign
  | add left right => do return (← left.value? assign) + (← right.value? assign)
  | sub left right => do return (← left.value? assign) - (← right.value? assign)
  | mul left right => do return (← left.value? assign) * (← right.value? assign)
  | div left right => do
      let divisor ← right.value? assign
      if divisor = 0 then none else return (← left.value? assign) / divisor
  | call function argument => do function.value? (← argument.value? assign)
  | call2 function first second => do
      function.value? (← first.value? assign) (← second.value? assign)
  | call3 .between inner low high => do
      let x ← inner.value? assign
      return Function2.ofTruth ((← low.value? assign) ≤ x ∧ x ≤ (← high.value? assign))
  | call3 .choose condition first second => do
      if (← condition.value? assign) = 0 then second.value? assign else first.value? assign

/-- Whether an expression switches something on: any value but zero does. -/
def isOn? (assign : String → Option ℚ) (e : Expr) : Option Bool :=
  (e.value? assign).map fun value => decide (value ≠ 0)

variable {assign : String → Option ℚ} {e : Expr}

theorem value?_integer (value : Int) : (integer value).value? assign = some (value : ℚ) := rfl

theorem value?_symbol (name : String) : (symbol name).value? assign = assign name := rfl

theorem value?_fixed (d : FixedDecimal) : (numeral (.fixed d)).value? assign = some d.value := rfl

section Operators

variable {left right : Expr} {x y : ℚ} (first : left.value? assign = some x)
  (second : right.value? assign = some y)
include first

theorem value?_abs : (call .abs left).value? assign = some |x| :=
  Option.bind_eq_some_iff.mpr ⟨x, first, rfl⟩

theorem value?_floor : left.floor.value? assign = some ((⌊x⌋ : Int) : ℚ) :=
  Option.bind_eq_some_iff.mpr ⟨x, first, rfl⟩

include second

theorem value?_add : (add left right).value? assign = some (x + y) :=
  Option.bind_eq_some_iff.mpr ⟨x, first, Option.bind_eq_some_iff.mpr ⟨y, second, rfl⟩⟩

theorem value?_sub : (sub left right).value? assign = some (x - y) :=
  Option.bind_eq_some_iff.mpr ⟨x, first, Option.bind_eq_some_iff.mpr ⟨y, second, rfl⟩⟩

theorem value?_mul : (mul left right).value? assign = some (x * y) :=
  Option.bind_eq_some_iff.mpr ⟨x, first, Option.bind_eq_some_iff.mpr ⟨y, second, rfl⟩⟩

theorem value?_div (nonzero : y ≠ 0) : (div left right).value? assign = some (x / y) := by
  have quotient : (if y = 0 then none else (left.value? assign).bind fun x => some (x / y)) =
      some (x / y) := by
    rw [if_neg nonzero, first]
    rfl
  exact Option.bind_eq_some_iff.mpr ⟨y, second, quotient⟩

theorem value?_call2 {function : Function2} {z : ℚ} (defined : function.value? x y = some z) :
    (call2 function left right).value? assign = some z :=
  Option.bind_eq_some_iff.mpr ⟨x, first, Option.bind_eq_some_iff.mpr ⟨y, second, defined⟩⟩

theorem value?_remainder (nonzero : y ≠ 0) :
    (mod left right).value? assign = some (x - y * ⌊x / y⌋) :=
  value?_call2 first second (if_neg nonzero)

end Operators

/-- The remainder of natural numbers. -/
theorem value?_mod {number divisor : Nat} (nonzero : divisor ≠ 0)
    (evaluated : e.value? assign = some (number : ℚ)) :
    (mod e (integer divisor)).value? assign = some ((number % divisor : Nat) : ℚ) := by
  have divides : ((divisor : Int) : ℚ) ≠ 0 := by exact_mod_cast nonzero
  have parts : ((number % divisor : Nat) : ℚ) + (divisor : ℚ) * ((number / divisor : Nat) : ℚ) =
      (number : ℚ) := by
    exact_mod_cast Nat.mod_add_div number divisor
  rw [value?_remainder evaluated (value?_integer divisor) divides, Int.cast_natCast,
    Rat.floor_natCast_div_natCast, ← Int.natCast_div, Int.cast_natCast, ← parts,
    add_sub_cancel_right]

theorem decide_ofTruth (holds : Bool) : decide (Function2.ofTruth holds ≠ 0) = holds := by
  cases holds <;> rfl

/-- A comparison of natural numbers. -/
theorem isOn?_eq {other : Expr} {left right : Nat} (first : e.value? assign = some (left : ℚ))
    (second : other.value? assign = some (right : ℚ)) :
    (call2 .eq e other).isOn? assign = some (decide (left = right)) := by
  unfold isOn?
  rw [value?_call2 first second rfl, Option.map_some, decide_ofTruth]
  exact congrArg some (decide_eq_decide.mpr Nat.cast_inj)

/-- An integer between two others. -/
theorem isOn?_between {index : Int} (evaluated : e.value? assign = some (index : ℚ))
    (low high : Int) :
    (call3 .between e (integer low) (integer high)).isOn? assign =
      some (decide (low ≤ index ∧ index ≤ high)) := by
  have compared : (call3 .between e (integer low) (integer high)).value? assign =
      some (Function2.ofTruth (decide ((low : ℚ) ≤ (index : ℚ) ∧ (index : ℚ) ≤ (high : ℚ)))) :=
    Option.bind_eq_some_iff.mpr ⟨index, evaluated, rfl⟩
  unfold isOn?
  rw [compared, Option.map_some, decide_ofTruth]
  exact congrArg some (decide_eq_decide.mpr (and_congr Int.cast_le Int.cast_le))

/-- A gain under a condition is on when the condition is. -/
theorem isOn?_choose {condition : Expr} {on : Bool} {gain : ℚ}
    (switched : condition.isOn? assign = some on) (given : e.value? assign = some gain)
    (audible : gain ≠ 0) : (call3 .choose condition e 0).isOn? assign = some on := by
  rcases Option.map_eq_some_iff.mp switched with ⟨value, evaluated, same⟩
  have chosen : (call3 .choose condition e 0).value? assign =
      some (if value = 0 then 0 else gain) := by
    refine Option.bind_eq_some_iff.mpr ⟨value, evaluated, ?_⟩
    split
    · rfl
    · exact given
  unfold isOn?
  rw [chosen, Option.map_some, ← same]
  by_cases off : value = 0
  · rw [if_pos off, off]
  · rw [if_neg off, decide_eq_true off, decide_eq_true audible]

end Expr

end TestSignal
