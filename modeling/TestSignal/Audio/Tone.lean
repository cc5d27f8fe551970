import TestSignal.Config.Basic
import TestSignal.Expr

namespace TestSignal

namespace Audio

/-!
# Tones and gates

Each channel slot carries one expression of the stream time `t`: silence, a
tone, a tone under the identification envelope, or the flash pair.  The flash
pair sounds for the samples of one video frame at the start of every two-second
period and, at another pitch, one second later.  Its gates count samples, so they
open and close on the sample and not near it.
-/

def sampleRate : Nat := 48000
def flashPeriodSeconds : Nat := 2
def standardFrequency : Number := 1000
def forcedFrequency : Number := 400
def leadFrequency : Number := 1000
def tailFrequency : Number := 400

/-- The samples of one flash period. -/
def flashPeriod : Nat := sampleRate * flashPeriodSeconds

/-- A sine of the given frequency. -/
def tone (frequency : Number) : Expr :=
  .call .sin (.mul (.mul (.mul 2 (.symbol "PI")) (.short frequency)) (.symbol "t"))

/-- An inactive slot carries a near-zero constant. -/
def silence : Expr := .paren (.places 1 6)

/-- Full gain for the first half of every second, a tenth for the rest. -/
def cycleEnvelope : Expr :=
  .call3 .choose (.call2 .lt (.mod (.symbol "t") 1) (.places 5 1)) 1 (.places 1 1)

/-- The gain of a twelve decibel boost, `10 ^ (12 / 20)` to six places. -/
def flashBoost : Expr := .places 3981072 6

/--
The samples of one video frame, rounded half up.  A rate below one frame per
second counts as one, and a frame has at least one sample.
-/
def samplesPerFrame (fps : Number) : Except Fault Int := do
  let ratio ← (Number.int sampleRate).div (Number.max 1 fps)
  let rounded ← Number.roundHalfUp ratio
  return max 1 rounded

/-- The index, within the flash period, of the sample that the stream time falls on. -/
def sampleIndex : Expr :=
  .mod (.floor (.mul (.symbol "t") (.integer sampleRate))) (.integer flashPeriod)

/-- Open for `length` samples from `start` on in every period, at the flash boost. -/
def gate (start length : Int) : Expr :=
  .call3 .choose
    (.call3 .between sampleIndex (.integer start) (.integer (start + length - 1)))
    flashBoost 0

/-- The gates of the flash pair: one frame at the start of the period, one a second later. -/
structure FlashGates where
  lead : Expr
  tail : Expr

def flashGates (fps : Number) : Except Fault FlashGates := do
  let length ← samplesPerFrame fps
  return { lead := gate 0 length, tail := gate sampleRate length }

/-- What one channel slot is asked to carry. -/
structure Slot where
  active : Bool
  cycle : Bool
  flash : Bool
  force400 : Bool
  deriving DecidableEq

/-- The tone of an active slot, under the envelope if it identifies its channel. -/
def carrier (slot : Slot) (frequency : Number) : Expr :=
  let base := tone (if slot.force400 then forcedFrequency else frequency)
  if slot.cycle then .paren (.mul base cycleEnvelope) else base

/-- The two flash tones, each under its gate. -/
def leadFlash (gates : FlashGates) : Expr := .paren (.mul (tone leadFrequency) gates.lead)

def tailFlash (gates : FlashGates) : Expr := .paren (.mul (tone tailFrequency) gates.tail)

/--
The expression of a slot.  A flash replaces the tone, unless the slot also
identifies its channel: then the two sound together.
-/
def slotExpr (slot : Slot) (frequency fps : Number) : Except Fault Expr := do
  if !slot.active then return silence
  else if slot.flash then
    let gates ← flashGates fps
    if slot.cycle then
      return .add (.add (.paren (carrier slot frequency)) (leadFlash gates)) (tailFlash gates)
    else return .add (leadFlash gates) (tailFlash gates)
  else return carrier slot frequency

end Audio

end TestSignal
