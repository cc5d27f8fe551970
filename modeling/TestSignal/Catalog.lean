import TestSignal.Anchor
import TestSignal.Animation
import TestSignal.Background
import TestSignal.Format

namespace TestSignal

namespace Catalog

/-!
# Lists for an operator

A control surface fills its menus from these lists: each choice with its
identifier and the name to show, in the order of the menu.
-/

def choice (id : Value) (name : String) : Value :=
  .object [("id", id), ("name", .string name)]

def backgrounds : Value :=
  .list (Background.all.map fun background =>
    .object [("id", .string background.id), ("name", .string background.name),
      ("type", .string background.kind)])

/-- No animation comes first. -/
def animations : Value :=
  .list (choice .null "None" ::
    Animation.all.map fun animation => choice (.string animation.id) animation.name)

/-- The name of a position, led by an arrow that points to it. -/
def positionName : Anchor → String
  | .topLeft => "↖ Top Left"
  | .topCenter => "↑ Top Center"
  | .topRight => "↗ Top Right"
  | .centerLeft => "← Center Left"
  | .center => "⊙ Center"
  | .centerRight => "→ Center Right"
  | .bottomLeft => "↙ Bottom Left"
  | .bottomCenter => "↓ Bottom Center"
  | .bottomRight => "↘ Bottom Right"

def positions : Value :=
  .list (Anchor.all.map fun anchor => choice (.string anchor.label) (positionName anchor))

def formats : Value :=
  .list (Format.labels.map fun (id, name) => choice (.string id) name)

end Catalog

end TestSignal
