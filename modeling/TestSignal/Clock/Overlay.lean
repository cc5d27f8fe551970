import TestSignal.Anchor
import TestSignal.Clock.Timing
import TestSignal.Font
import TestSignal.Format
import TestSignal.Number.Reading

namespace TestSignal

namespace Clock

/-!
# Placing the clock

The lines of the clock form a block at their anchor, one line height apart.  At
a centre row the block is centred on the anchor, at a top row it grows downward
and at a bottom row upward; there the lines are placed in reverse, so that the
first line stays on top.
-/

/-- The size of the clock's letters: a share of the frame height, at least 28. -/
def fontSize (height : Int) : Except Fault Int := do
  let share ← (Number.int 48).mul (← (Number.int height).div 1080)
  return max 28 (← Number.roundHalfUp share)

/-- A share of a letter size, rounded half up and no smaller than a least value. -/
def shareOf (size : Int) (share : Number) (least : Int) : Except Fault Int := do
  return max least (← Number.roundHalfUp (← (Number.int size).mul share))

/-- How far a line is moved from the position of its anchor. -/
inductive LineShift where
  | none
  | plus (amount : Number)
  | minus (amount : Number)
  deriving DecidableEq

/-- The position of a line in a block, as its distance from the anchor's. -/
def lineShift (index total : Int) (lineHeight : Number) (row : Row) :
    Except Fault LineShift := do
  match row with
  | .center =>
      let middle ← (Number.int (total - 1)).div 2
      let offset ← (← (Number.int index).sub middle).mul lineHeight
      if (Number.int (-1)).lt offset && offset.lt 1 then return .none
      else
        let rounded ← Number.roundHalfUp offset
        return if 0 ≤ rounded then .plus (.int rounded) else .minus (.int rounded.natAbs)
  | .top =>
      if index = 0 then return .none
      else return .plus (← (Number.int index).mul lineHeight)
  | .bottom =>
      if index = 0 then return .none
      else return .minus (← (Number.int index).mul lineHeight)

/-- The text of an amount; an integer of more digits than are read is not written either. -/
def amountText (amount : Number) : Except Fault String :=
  match amount with
  | .int size =>
      if (Nat.toDigits 10 size.natAbs).length ≤ Reading.integerDigitLimit then
        .ok (toString size)
      else .error .integerTooLongToWrite
  | .float x => .ok x.toText

/-- A position moved by a shift. -/
def LineShift.apply (base : String) : LineShift → Except Fault String
  | none => .ok base
  | plus amount => do return "(" ++ base ++ ")+" ++ (← amountText amount)
  | minus amount => do return "(" ++ base ++ ")-" ++ (← amountText amount)

/-- The vertical position of a line in a block. -/
def lineY (base : String) (index total : Int) (lineHeight : Number) (row : Row) :
    Except Fault String := do
  (← lineShift index total lineHeight row).apply base

/-- The place in its block of a line: bottom blocks are stacked from the last line up. -/
def placementIndex (row : Row) (index total : Nat) : Int :=
  match row with
  | .bottom => total - 1 - index
  | _ => index

/-- The sizes that all lines of a clock share. -/
structure BlockSizes where
  font : Int
  border : Int
  lineHeight : Int

def blockSizes (height : Int) : Except Fault BlockSizes := do
  let font ← fontSize height
  return {
    font
    border := ← shareOf font (Number.decimal 1 1) 3
    lineHeight := ← shareOf font (Number.decimal 12 1) (font + 4) }

/-- The filter that draws one line of the clock at a vertical position. -/
def lineFilter (text : String) (font : Font) (sizes : BlockSizes) (x y : String) : Filter where
  name := "drawtext"
  params :=
    [ ("text", .template text), font.param, ("fontsize", .int sizes.font),
      ("fontcolor", .text "white"), ("box", .int 1), ("boxcolor", .text "black@0.5"),
      ("boxborderw", .int sizes.border), ("x", .text x), ("y", .text y) ]

/-- One filter per line of the clock, in reading order. -/
def filters (timing : Timing) (format : Format) (anchor : Anchor) (font : Font) :
    Except Fault (List Filter) := do
  let sizes ← blockSizes format.height
  let place := Placement.clock anchor
  let total := timing.lines.length
  timing.lines.zipIdx.mapM fun (text, index) => do
    let y ← lineY place.y (placementIndex anchor.row index total) total (.int sizes.lineHeight)
      anchor.row
    return lineFilter text font sizes place.x y

end Clock

end TestSignal
