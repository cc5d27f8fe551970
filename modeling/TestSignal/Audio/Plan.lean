import TestSignal.Audio.Tone
import TestSignal.Config.Sanitize

namespace TestSignal

namespace Audio

/-!
# The audio plan

The plan fixes what every channel slot carries and how many channels leave the
program.  All eight slots are always described; the output has two channels
until a slot beyond the first pair is active, and eight from then on.
-/

structure Plan where
  expressions : List Expr
  channels : Nat
  layout : String
  frequency : Number
  channelMap : List Bool
  idCycle : List Bool
  flash : List Bool
  force400 : List Bool

/-- The name of the loudspeaker layout with a count of channels. -/
def layoutName (channels : Int) : String :=
  if channels = 1 then "mono"
  else if channels = 2 then "stereo"
  else if channels = 3 then "3.0"
  else if channels = 4 then "4.0"
  else if channels = 5 then "5.0"
  else if channels = 6 then "5.1"
  else if channels = 7 then "6.1"
  else if channels = 8 then "7.1"
  else toString channels ++ "c"

/-- The tone frequency that a value asks for, within the limits. -/
def frequencyOf (value : Value) : Except Fault Number := do
  let number ← value.asNumber
  let wanted :=
    match number with
    | some x => .float x
    | none => standardFrequency
  return Number.clamp wanted Limit.lowestFrequency Limit.highestFrequency

/--
The gain of the volume filter, or nothing at unity.  A level is kept within its
limits and rounded to three places.
-/
def gainOf (level : Value) : Except Fault (Option String) := do
  let number ← level.asNumber
  match number with
  | none => return none
  | some x =>
      let limited := Number.clamp (.float x) Limit.lowestLevel Limit.highestLevel
      let rounded := limited.roundPlaces 3
      return if rounded.isZero then none else some (rounded.toShortText ++ "dB")

/-- What the lists of switches ask of the slot in a place. -/
def slotAt (channelMap idCycle flash force400 : List Bool) (index : Nat) :
    Except Fault Slot := do
  let active ← Channels.flagAt channelMap index
  let cycle ← Channels.flagAt idCycle index
  let flash ← Channels.flagAt flash index
  let force400 ← Channels.flagAt force400 index
  return { active, cycle, flash, force400 }

/-- Eight channels as soon as one beyond the first pair is active, two otherwise. -/
def channelCount (channelMap : List Bool) : Nat :=
  if (channelMap.drop 2).any id then channelSlots else 2

/-- The plan for loosely typed channel lists and a frame rate. -/
def synthesize (channelMap idCycle flash force400 frequency : Value) (fps : Number) :
    Except Fault Plan := do
  let channelMap ← Channels.activeMap channelMap (.int 2)
  let idCycle := Channels.flags idCycle
  let flash := Channels.flags flash
  let force400 := Channels.flags force400
  let frequency ← frequencyOf frequency
  let expressions ← (List.range channelSlots).mapM fun index => do
    let slot ← slotAt channelMap idCycle flash force400 index
    slotExpr slot frequency fps
  let channels := channelCount channelMap
  return {
    expressions
    channels
    layout := layoutName channels
    frequency
    channelMap
    idCycle
    flash
    force400 }

namespace Plan

/-- The expressions of all slots, separated by bars. -/
def expressionsText (plan : Plan) : String :=
  String.intercalate "|" (plan.expressions.map Expr.escapedText)

/-- The description of the generated audio source. -/
def source (plan : Plan) : String :=
  "aevalsrc=exprs=" ++ plan.expressionsText ++ ":sample_rate=" ++ toString sampleRate ++
    ":channel_layout=" ++ plan.layout

/-- Whether a flash is asked for on any slot, active or not. -/
def anyFlash (plan : Plan) : Bool := plan.flash.any id

end Plan

end Audio

end TestSignal
