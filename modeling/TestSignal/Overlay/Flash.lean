import TestSignal.Config.Basic
import TestSignal.Expr
import TestSignal.Font
import TestSignal.Format
import TestSignal.Text.Word

namespace TestSignal

namespace Overlay

/-!
# The flash cue

A flash that is heard is also seen: for exactly one frame a box with a label
shows in the middle of the picture.  The two cues follow each other one second
apart in a two-second cycle, as the audio gates do, the lead cue on frame zero
of the cycle.

The box is positioned in its own variables, `iw` and `ih` for the frame size; the
label in those of a text, `w` and `h`.  The label is centred on the box, so its
position is the box's with the variables renamed and a correction for its height.
-/

/-- The width of the box. -/
def flashBoxWidth : Expr := .mul (.symbol "iw") (.places 15 2)

/-- The height of the box. -/
def flashBoxHeight : Expr := .mul (.symbol "ih") (.places 15 2)

/-- The top of a box in the middle of the frame. -/
def centredTop (height : Expr) : Expr :=
  .div (.paren (.sub (.symbol "ih") (.paren height))) 2

/-- The offset in percent that a value asks for, within the limits, or none. -/
def flashOffset (value : Value) : Except Fault Number := do
  match ← value.asNumber with
  | some percent =>
      return Number.clamp (.float percent) (.int Limit.lowestFlashOffset)
        (.int Limit.highestFlashOffset)
  | none => return 0

/-- The top of the box, moved from the middle by a percentage of the way to the edge. -/
def flashBoxTop (offset : Value) (height : Expr) : Except Fault Expr := do
  let percent ← flashOffset offset
  let middle := centredTop height
  if percent.isZero then return middle
  else
    let share ← (← percent.div 100).toBinary64
    return .add (.paren middle) (.paren (.mul (.fixed 4 share) (.paren middle)))

/-- The frame size in the variables of a text instead of those of a box. -/
def toTextSpace (expression : String) : String :=
  String.ofList
    (Text.replaceWordPair 'i' 'w' 'w' false
      (Text.replaceWordPair 'i' 'h' 'h' false expression.toList))

/-- The top of the label, for the text of the box's top and of its height. -/
def flashLabelTop (boxTop boxHeight : String) : String :=
  "(" ++ toTextSpace boxTop ++ ")+(((" ++ toTextSpace boxHeight ++ ")/2)-(text_h/2))"

/-- One of the two cues of a cycle. -/
structure FlashCue where
  /-- True on the one frame of the cycle that shows the cue. -/
  enable : Expr
  boxColor : String
  label : String
  labelColor : String

/-- The frames of a two-second cycle, at least one. -/
def framesPerCycle (fps : Number) : Except Fault Int := do
  return max 1 (← Number.roundHalfUp (← fps.mul 2))

/-- The lead cue on frame zero of the cycle, the tail cue one second later. -/
def flashCues (fps : Number) : Except Fault (List FlashCue) := do
  let cycle := Expr.integer (← framesPerCycle fps)
  let onFrame (frame : Expr) : Expr := .call2 .eq (.mod (.symbol "n") cycle) frame
  return [
    { enable := onFrame 0, boxColor := "white@0.9", label := "1KHz", labelColor := "black" },
    { enable := onFrame (.shown fps), boxColor := "black@0.9", label := "400Hz"
      labelColor := "white" } ]

/-- The box of a cue. -/
def cueBox (cue : FlashCue) (top : Expr) : Filter where
  name := "drawbox"
  params :=
    [ ("x", .text ("(iw-" ++ flashBoxWidth.text ++ ")/2")), ("y", .quoted top.text),
      ("w", .text flashBoxWidth.text), ("h", .text flashBoxHeight.text),
      ("color", .text cue.boxColor), ("t", .text "fill"), ("enable", .quoted cue.enable.text) ]

/-- The label of a cue. -/
def cueLabel (cue : FlashCue) (top : Expr) (size : Int) (font : Font) : Filter where
  name := "drawtext"
  params :=
    [ ("text", .literal cue.label), font.param, ("fontsize", .int size),
      ("fontcolor", .text cue.labelColor), ("x", .text "(w-text_w)/2"),
      ("y", .quoted (flashLabelTop top.text flashBoxHeight.text)),
      ("enable", .quoted cue.enable.text) ]

/-- The size of the labels' letters: a share of the frame height, at least 32. -/
def cueLabelSize (height : Int) : Except Fault Int := do
  return max 32 (← Number.roundHalfUp (← (Number.int height).mul (Number.decimal 8 2)))

/-- The boxes and labels of both cues. -/
def flashFilters (format : Format) (offset : Value) (font : Font) :
    Except Fault (List Filter) := do
  let cues ← flashCues format.fps
  let size ← cueLabelSize format.height
  let top ← flashBoxTop offset flashBoxHeight
  return cues.flatMap fun cue => [cueBox cue top, cueLabel cue top size font]

end Overlay

end TestSignal
