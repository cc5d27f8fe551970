namespace TestSignal

/-!
# Animations

An animation overlays a moving element whose picture is a second generated
input: a bouncing square, or a staircase of luma steps with a travelling pulse.
No animation is a choice of its own in the operator's list.
-/

inductive Animation where
  | square
  | staircasePulse
  deriving DecidableEq

namespace Animation

def id : Animation → String
  | square => "square"
  | staircasePulse => "staircase_pulse"

/-- The name shown to an operator. -/
def name : Animation → String
  | square => "Moving Square"
  | staircasePulse => "Staircase + Pulse (R&S)"

def all : List Animation := [square, staircasePulse]

def ofId? (id : String) : Option Animation := all.find? fun animation => animation.id = id

/-- An identifier leads back to its animation. -/
theorem ofId?_id (animation : Animation) : ofId? animation.id = some animation := by
  cases animation <;> decide

end Animation

end TestSignal
