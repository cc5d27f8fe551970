import TestSignal.Background
import TestSignal.Clock.Overlay
import TestSignal.Overlay.Flash
import TestSignal.Overlay.Status
import TestSignal.Overlay.Text
import TestSignal.Picture.Motion

namespace TestSignal

namespace Picture

/-!
# The graph of the picture

The picture is made from its inputs in a fixed order: the rate is normalised, a
background of another size is scaled, and then come the user's text, the
animation, the logo, the clock, the status block and the flash cue, each if it is
wanted.  The preroll shift comes last, ahead of the stage that ends the graph.

A feature whose input pad is not wired is left out.
-/

/-- The pads of the inputs that the command wires. -/
structure Inputs where
  base : String := "0:v"
  animation : Option String := none
  logo : Option String := none
  deriving DecidableEq

/-- What the picture is made from, besides the configuration. -/
structure Scene where
  format : Format
  background : Background
  inputs : Inputs
  audio : Audio.Plan
  clock : Clock.Reading

/-- A pad that is wired to something. -/
def wired (pad : Option String) : Option String := pad.filter fun label => !label.isEmpty

def rateStep (format : Format) : Step :=
  .onLine "fps" [{ name := "fps", args := [.number format.fps] }]

def scaleSteps (format : Format) (background : Background) : List Step :=
  if background.isNative then []
  else [.onLine "base" [{ name := "scale", args := [.int format.width, .int format.height] }]]

/-- The size of the user's text; none or zero means the standard size. -/
def textSize (value : Value) : Except Fault Number := do
  match ← value.asNumber with
  | some size => return if (Number.float size).isZero then 80 else .float size
  | none => return 80

/-- A stage for each line of the user's text. -/
def textSteps (config : RawConfig) (fonts : Fonts) : HostRun (List Step) := do
  if !config.text.isOn then return []
  else
    let font ← fonts.resolve config.fontFamily
    HostRun.ofExcept do
      let size ← textSize config.fontSize
      let style : Overlay.TextStyle :=
        { font, size, color := config.textColor, weight := config.textWeight
          background := config.textBackground }
      let filters ←
        Overlay.textFilters config.text.asText style
          (Config.anchorOr .center config.textPosition)
      return filters.map fun filter => .onLine "txt" [filter]

/-- The stages of the animation, when one is chosen and wired. -/
def animationSteps (animation : Value) (format : Format) (pad : Option String) :
    Except Fault (List Step) :=
  match animation, wired pad with
  | .string id, some pad =>
      match Animation.ofId? id with
      | some .square => squareSteps format pad
      | some .staircasePulse => staircasePulseSteps format pad
      | none => .ok []
  | _, _ => .ok []

/-- The logo is a picture of its own, laid over the line. -/
def logoSteps (config : RawConfig) (pad : Option String) : List Step :=
  match wired pad with
  | some pad =>
      if config.showLogo.isOn then
        let place := Placement.logo (Config.anchorOr .topRight config.logoPosition)
        [.onLine "logo" [{ name := "overlay", args := [.text place.x, .text place.y] }]
          [.pad pad]]
      else []
  | none => []

def clockSteps (config : RawConfig) (scene : Scene) (fonts : Fonts) :
    Except Fault (List Step) := do
  if !config.showClock.isOn then return []
  else
    let timing ←
      Clock.Timing.ofReading scene.clock (.number scene.format.fps) config.clockLatencyMs
    let filters ←
      Clock.filters timing scene.format (Config.anchorOr .bottomRight config.clockPosition)
        fonts.default
    return filters.map fun filter => .onLine "clock" [filter]

def statusSteps (config : RawConfig) (scene : Scene) (fonts : Fonts) :
    Except Fault (List Step) := do
  if !config.showConfigOverlay.isOn then return []
  else
    let lines ← Overlay.statusLines scene.format.id scene.audio config.audioLevelDb
    let filters ←
      Overlay.statusFilters lines scene.format config.configOverlayFontSize
        (Config.anchorOr .topLeft config.configOverlayPosition) fonts.default
    return filters.map fun filter => .onLine "overlay" [filter]

def flashSteps (config : RawConfig) (scene : Scene) (fonts : Fonts) :
    Except Fault (List Step) := do
  if !scene.audio.anyFlash then return []
  else
    let filters ←
      Overlay.flashFilters scene.format config.flashOverlayOffset fonts.default
    return filters.map fun filter => .onLine "flash" [filter]

/-- The picture is held back by the time that the sound is. -/
def prerollStep : Step := .onLine "preroll" [{ name := "setpts", args := [.text "PTS+0.3/TB"] }]

/-- All steps of the picture, in order. -/
def steps (config : RawConfig) (scene : Scene) (fonts : Fonts) : HostRun (List Step) := do
  let text ← textSteps config fonts
  HostRun.ofExcept do
    let animation ← animationSteps config.animation scene.format scene.inputs.animation
    let clock ← clockSteps config scene fonts
    let status ← statusSteps config scene fonts
    let flash ← flashSteps config scene fonts
    return [rateStep scene.format] ++ scaleSteps scene.format scene.background ++ text ++
      animation ++ logoSteps config scene.inputs.logo ++ clock ++ status ++ flash ++
      [prerollStep]

/-- The filter graph of the picture, which ends in the output pad. -/
def graph (config : RawConfig) (scene : Scene) (fonts : Fonts) : HostRun FilterGraph := do
  let steps ← steps config scene fonts
  let chain := Chain.ofSteps scene.inputs.base steps
  return (chain.terminate scene.format.fps scene.format.interlaced).graph

end Picture

end TestSignal
