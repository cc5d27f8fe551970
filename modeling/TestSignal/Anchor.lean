namespace TestSignal

/-!
# Screen anchors

An element is anchored at one of nine positions, a row and a column.  The label
of a position names both, except that the middle of the frame is one word.
-/

inductive Row where
  | top | center | bottom
  deriving DecidableEq

inductive Column where
  | left | center | right
  deriving DecidableEq

inductive Anchor where
  | topLeft | topCenter | topRight
  | centerLeft | center | centerRight
  | bottomLeft | bottomCenter | bottomRight
  deriving DecidableEq

namespace Row

def label : Row → String
  | top => "top"
  | center => "center"
  | bottom => "bottom"

end Row

namespace Column

def label : Column → String
  | left => "left"
  | center => "center"
  | right => "right"

end Column

namespace Anchor

/-- Every anchor, in reading order. -/
def all : List Anchor :=
  [topLeft, topCenter, topRight, centerLeft, center, centerRight, bottomLeft, bottomCenter,
    bottomRight]

def row : Anchor → Row
  | topLeft | topCenter | topRight => .top
  | centerLeft | center | centerRight => .center
  | bottomLeft | bottomCenter | bottomRight => .bottom

def column : Anchor → Column
  | topLeft | centerLeft | bottomLeft => .left
  | topCenter | center | bottomCenter => .center
  | topRight | centerRight | bottomRight => .right

def label : Anchor → String
  | topLeft => "top-left"
  | topCenter => "top-center"
  | topRight => "top-right"
  | centerLeft => "center-left"
  | center => "center"
  | centerRight => "center-right"
  | bottomLeft => "bottom-left"
  | bottomCenter => "bottom-center"
  | bottomRight => "bottom-right"

def ofLabel? (label : String) : Option Anchor := all.find? fun anchor => anchor.label = label

/-- Every anchor is listed. -/
theorem mem_all (anchor : Anchor) : anchor ∈ all := by cases anchor <;> decide

/-- A label leads back to its anchor. -/
theorem ofLabel?_label (anchor : Anchor) : ofLabel? anchor.label = some anchor := by
  cases anchor <;> decide

/-- A label other than the middle's is its row, a hyphen and its column. -/
theorem label_eq (anchor : Anchor) (offCenter : anchor ≠ center) :
    anchor.label = anchor.row.label ++ "-" ++ anchor.column.label := by
  revert offCenter
  cases anchor <;> decide

end Anchor

/-! ## Placements -/

/-- The position expressions of an anchored element. -/
structure Placement where
  x : String
  y : String
  deriving DecidableEq

namespace Placement

/-- Texts and clock lines keep a margin and are centred on their own size. -/
def ofText (margin : String) (anchor : Anchor) : Placement where
  x :=
    match anchor.column with
    | .left => margin
    | .center => "(w-text_w)/2"
    | .right => "w-text_w-" ++ margin
  y :=
    match anchor.row with
    | .top => margin
    | .center => "(h-text_h)/2"
    | .bottom => "h-text_h-" ++ margin

/-- User text stands fifty pixels from the edge. -/
def text : Anchor → Placement := ofText "50"

/-- The clock stands ten pixels from the edge. -/
def clock : Anchor → Placement := ofText "10"

/-- The logo is an overlaid picture, ten pixels from the edge of the main one. -/
def logo (anchor : Anchor) : Placement where
  x :=
    match anchor.column with
    | .left => "10"
    | .center => "(main_w-overlay_w)/2"
    | .right => "main_w-overlay_w-10"
  y :=
    match anchor.row with
    | .top => "10"
    | .center => "(main_h-overlay_h)/2"
    | .bottom => "main_h-overlay_h-10"

end Placement

end TestSignal
