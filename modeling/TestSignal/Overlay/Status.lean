import TestSignal.Anchor
import TestSignal.Audio.Plan
import TestSignal.Font
import TestSignal.Text.Blank

namespace TestSignal

namespace Overlay

/-!
# The status block

The status block tells an operator what the signal is: the format, the tone with
its level and channels, and the channels of each special role.  It is laid out in
whole pixels, inside a margin of fifty.
-/

def margin : Int := 50

/-! ## What it says -/

/-- Drops the zeros at the end of a fixed text, and the point if nothing is left after it. -/
def dropTrailingZeros (text : String) : String :=
  let kept := text.toList.reverse.dropWhile (· == '0')
  String.ofList (kept.dropWhile (· == '.')).reverse

/-- A level rounded half up to thousandths, as a whole number or with two places. -/
def levelText (rounded : Binary64) : String :=
  match rounded.integer? with
  | some whole => toString whole
  | none => dropTrailingZeros (rounded.fixedText 2)

/--
The level as an operator reads it, with a plus sign above zero.  A level given
as a text counts by the first number in it.
-/
def levelLabel (level : Value) : Except Fault (Option String) := do
  match ← (Config.labelledNumber level).asNumber with
  | none => return none
  | some number =>
      let thousandths ← Number.roundHalfUp (← (Number.float number).mul 1000)
      let rounded ← (← (Number.int thousandths).div 1000).toBinary64
      let sign := if (0 : Number).lt (.float rounded) then "+" else ""
      return some (sign ++ levelText rounded ++ " dBFS")

/-- An active channel of the output, with its number from one on and what is asked of it. -/
structure OutputChannel where
  number : Nat
  flash : Bool
  cycle : Bool
  force400 : Bool
  deriving DecidableEq

namespace OutputChannel

/-- The channel in a place of a plan, when it is active.  What is asked of it must stand in
the plan's lists. -/
def ofPlan? (plan : Audio.Plan) (index : Nat) : Except Fault (Option OutputChannel) := do
  let active ← Channels.flagAt plan.channelMap index
  if !active then return none
  else
    let flash ← Channels.flagAt plan.flash index
    let cycle ← Channels.flagAt plan.idCycle index
    let force400 ← Channels.flagAt plan.force400 index
    return some { number := index + 1, flash, cycle, force400 }

def label (channel : OutputChannel) : String := "Ch" ++ toString channel.number

/-- A plain channel carries the tone unchanged. -/
def isPlain (channel : OutputChannel) : Bool := !channel.flash && !channel.force400

end OutputChannel

/-- The active channels that leave the program, in order. -/
def outputChannels (plan : Audio.Plan) : Except Fault (List OutputChannel) := do
  let found ←
    (List.range (min plan.channels plan.channelMap.length)).mapM (OutputChannel.ofPlan? plan)
  return found.filterMap id

/-- The labels of the channels in a role. -/
def channelLabels (channels : List OutputChannel) (role : OutputChannel → Bool) : List String :=
  (channels.filter role).map OutputChannel.label

/-- Labels with commas between them, or a mark for none. -/
def joinedOr (mark : String) (labels : List String) : String :=
  if labels.isEmpty then mark else String.intercalate ", " labels

/-- The tone with its level, and the channels that carry it unchanged. -/
def toneLine (channels : List OutputChannel) (frequency : Int) (level : Option String) :
    String :=
  let carriers := channelLabels channels OutputChannel.isPlain
  "▌ " ++ toString frequency ++ " Hz" ++
    (match level with
    | some label => " " ++ label
    | none => "") ++
    (if carriers.isEmpty then "" else ": " ++ String.intercalate ", " carriers)

/-- A line that lists the channels of a role. -/
def roleLine (title : String) (channels : List OutputChannel) (role : OutputChannel → Bool) :
    String :=
  "▌ " ++ title ++ ": " ++ joinedOr "--" (channelLabels channels role)

/-- The lines of the status block, without blanks around them; a blank one is left out. -/
def statusLines (formatId : String) (plan : Audio.Plan) (level : Value) :
    Except Fault (List String) := do
  let channels ← outputChannels plan
  let frequency ← Number.roundHalfUp plan.frequency
  let label ← levelLabel level
  let lines :=
    (if formatId.isEmpty then [] else ["Format: " ++ formatId]) ++
      [ toneLine channels frequency label,
        roleLine "400Hz" channels OutputChannel.force400,
        roleLine "Cycle ID" channels OutputChannel.cycle,
        roleLine "1-frame Flash" channels OutputChannel.flash ]
  return (lines.filter Text.hasInk).map Text.trim

/-! ## Where it stands -/

/--
The size of the letters: a given one within the limits, rounded half up, and
otherwise a share of the frame height brought within them.
-/
def overlayFontSize (size : Value) (frameHeight : Int) : Except Fault Int := do
  let given : Option Number := (← size.asNumber).map .float
  let usable := given.filter fun number =>
    (Number.int Limit.smallestOverlayFont).le number &&
      number.le (.int Limit.largestOverlayFont)
  match usable with
  | some number => Number.roundHalfUp number
  | none =>
      let share ← Number.roundHalfUp (← (Number.int frameHeight).mul (Number.decimal 35 3))
      return max Limit.smallestOverlayFont (min Limit.largestOverlayFont (max 24 share))

def overlayX (anchor : Anchor) : String :=
  match anchor.column with
  | .right => "w-text_w-50"
  | .center => "(w-text_w)/2"
  | .left => "50"

/-- The top of a block of a given height; it never starts above the margin. -/
def overlayStartY (anchor : Anchor) (frameHeight totalHeight : Int) : Except Fault Int := do
  match anchor.row with
  | .top => return margin
  | .bottom => return max margin (frameHeight - totalHeight - margin)
  | .center =>
      let middle ← (Number.int (frameHeight - totalHeight)).div 2
      return max margin (← Number.roundHalfUp middle)

/-- The measures of a status block. -/
structure StatusLayout where
  size : Int
  spacing : Int
  border : Int
  startY : Int

namespace StatusLayout

/-- From the top of one line to the top of the next. -/
def stride (layout : StatusLayout) : Int := layout.size + layout.spacing

/-- The top of a line. -/
def lineY (layout : StatusLayout) (index : Nat) : Int := layout.startY + index * layout.stride

/-- The height of a block of lines. -/
def totalHeight (size spacing : Int) (count : Nat) : Int := size * count + spacing * (count - 1)

end StatusLayout

/-- The measures of a block with a count of lines. -/
def statusLayout (count : Nat) (frameHeight : Int) (fontSize : Value) (anchor : Anchor) :
    Except Fault StatusLayout := do
  let size ← overlayFontSize fontSize frameHeight
  let share (part : Number) (least : Int) : Except Fault Int := do
    return max least (← Number.roundHalfUp (← (Number.int size).mul part))
  let spacing ← share (Number.decimal 3 1) 6
  let border ← share (Number.decimal 25 2) 4
  let startY ← overlayStartY anchor frameHeight (StatusLayout.totalHeight size spacing count)
  return { size, spacing, border, startY }

/-- The filter that draws one line of the block. -/
def statusFilter (layout : StatusLayout) (x : String) (font : Font) (line : String)
    (index : Nat) : Filter where
  name := "drawtext"
  params :=
    [ ("text", .literal line), font.param, ("fontsize", .int layout.size),
      ("fontcolor", .text "white"), ("box", .int 1), ("boxcolor", .text "black@0.55"),
      ("boxborderw", .int layout.border), ("x", .text x), ("y", .int (layout.lineY index)) ]

/-- One filter per line. -/
def statusFilters (lines : List String) (format : Format) (fontSize : Value) (anchor : Anchor)
    (font : Font) : Except Fault (List Filter) := do
  if lines.isEmpty then return []
  else
    let layout ← statusLayout lines.length format.height fontSize anchor
    return lines.zipIdx.map fun (line, index) =>
      statusFilter layout (overlayX anchor) font line index

end Overlay

end TestSignal
