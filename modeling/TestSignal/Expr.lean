import TestSignal.Number.Written

namespace TestSignal

/-!
# Expressions of the filter language

The engine evaluates expressions while it runs: positions from the frame size,
tones and gates from the stream time, a cue from the frame number.  An emitted
expression is kept as a tree and becomes text only by `render`.  The tree has a
node for every pair of parentheses in the text and none for a bracket that the
text lacks, so the text of a tree groups as the tree does; what an expression
means can therefore be said on the tree.

A symbol is a variable of the engine, or any text that a caller gives for a
subexpression; a symbol is rendered as it is.
-/

/-- A number as an expression shows it. -/
inductive Numeral where
  /-- An exact integer. -/
  | integer (value : Int)
  /-- A number with fixed decimal places. -/
  | fixed (value : FixedDecimal)
  /-- A number with the text that shows its kind. -/
  | shown (value : Number)
  /-- A number with the shortest text that keeps its value. -/
  | short (value : Number)
  deriving DecidableEq

/-- The functions of one argument. -/
inductive Function where
  | floor | abs | sin
  deriving DecidableEq

/-- The functions of two arguments. -/
inductive Function2 where
  | mod | lt | gt | eq
  deriving DecidableEq

/-- The functions of three arguments. -/
inductive Function3 where
  | between | choose
  deriving DecidableEq

inductive Expr where
  | numeral (value : Numeral)
  | symbol (text : String)
  | paren (inner : Expr)
  | add (left right : Expr)
  | sub (left right : Expr)
  | mul (left right : Expr)
  | div (left right : Expr)
  | call (function : Function) (argument : Expr)
  | call2 (function : Function2) (first second : Expr)
  | call3 (function : Function3) (first second third : Expr)
  deriving DecidableEq

namespace Numeral

def toText : Numeral → String
  | integer value => toString value
  | fixed value => value.toText
  | shown value => value.toText
  | short value => value.toShortText

end Numeral

namespace Function

def name : Function → String
  | floor => "floor"
  | abs => "abs"
  | sin => "sin"

end Function

namespace Function2

def name : Function2 → String
  | mod => "mod"
  | lt => "lt"
  | gt => "gt"
  | eq => "eq"

end Function2

namespace Function3

/-- The choice by a condition is written `if`. -/
def name : Function3 → String
  | between => "between"
  | choose => "if"

end Function3

namespace Expr

/-- An integer literal. -/
instance (n : Nat) : OfNat Expr n := ⟨numeral (.integer n)⟩

def integer (value : Int) : Expr := numeral (.integer value)

def short (value : Number) : Expr := numeral (.short value)

def shown (value : Number) : Expr := numeral (.shown value)

/-- The literal `units / 10 ^ places`. -/
def places (units places : Nat) : Expr :=
  numeral (.fixed { negative := false, units, places })

/-- A number to fixed decimal places; one that is not finite is only a name. -/
def fixed (places : Nat) (x : Binary64) : Expr :=
  match x.toFixed? places with
  | some value => numeral (.fixed value)
  | none => symbol (x.fixedText places)

def floor (e : Expr) : Expr := call .floor e

def mod (dividend divisor : Expr) : Expr := call2 .mod dividend divisor

/-- The text of an expression; `comma` separates the arguments of a call. -/
def render (comma : String) : Expr → String
  | numeral value => value.toText
  | symbol text => text
  | paren inner => "(" ++ inner.render comma ++ ")"
  | add left right => left.render comma ++ "+" ++ right.render comma
  | sub left right => left.render comma ++ "-" ++ right.render comma
  | mul left right => left.render comma ++ "*" ++ right.render comma
  | div left right => left.render comma ++ "/" ++ right.render comma
  | call function argument => function.name ++ "(" ++ argument.render comma ++ ")"
  | call2 function first second =>
      function.name ++ "(" ++ first.render comma ++ comma ++ second.render comma ++ ")"
  | call3 function first second third =>
      function.name ++ "(" ++ first.render comma ++ comma ++ second.render comma ++ comma ++
        third.render comma ++ ")"

/-- The text inside a quoted option, where commas are plain. -/
def text (e : Expr) : String := e.render ","

/-- The text inside an unquoted source description, where a comma needs a backslash. -/
def escapedText (e : Expr) : String := e.render "\\,"

end Expr

end TestSignal
