import TestSignal.Device.Cache
import TestSignal.Picture.Graph
import TestSignal.Settings

namespace TestSignal

/-!
# The engine command

A configuration is compiled into the argument list that starts the engine: the
inputs, the filter graph, which streams are mapped, the audio filters and the
output card.  The inputs are numbered as they are listed, and the graph and the
mapping refer to them by those numbers.
-/

structure Command where
  args : List String
  graph : FilterGraph
  channels : Nat
  layout : String
  device : String
  /-- The number of the audio input. -/
  audioIndex : Nat

namespace Command

/-- The arguments with blanks between them. -/
def line (command : Command) : String := String.intercalate " " command.args

/-! ## Inputs -/

/-- The arguments that add one input. -/
structure Input where
  args : List String

/-- A generated input. -/
def Input.generated (description : String) : Input :=
  { args := ["-f", "lavfi", "-i", description] }

/-- A still picture, repeated for ever. -/
def Input.still (path : Path) : Input := { args := ["-loop", "1", "-i", path.toText] }

/-- A file as it is. -/
def Input.file (path : Path) : Input := { args := ["-i", path.toText] }

/-- Only the last segment of an uploaded name counts. -/
def uploadedPath (directory : Path) (name : Value) : Path :=
  directory.below (Path.ofText name.asText).name

/-- The background that is used: an uploaded one without a name becomes the standard one. -/
def effectiveBackground (config : RawConfig) : Background :=
  let background := Background.ofValue config.background
  if background.id = Background.customId && !config.customBackground.isOn then
    Background.standard
  else background

def backgroundInput (background : Background) (config : RawConfig) (format : Format)
    (settings : Settings) : Input :=
  match background.source with
  | .upload => .still (uploadedPath settings.backgroundsDir config.customBackground)
  | .picture file => .still (settings.picturesDir.below file)
  | source =>
      .generated ((source.describe format.resolution format.fps.toText).getD "")

/-- The picture of an animation is generated beside the background. -/
def animationInput (animation : Value) (format : Format) : Except Fault (Option Input) := do
  match animation with
  | .string id =>
      match Animation.ofId? id with
      | some .square => do
          let size := toString (← Picture.blockSize format)
          return some (.generated
            ("color=c=0xff2020:size=" ++ size ++ "x" ++ size ++ ":rate=" ++ format.fps.toText))
      | some .staircasePulse =>
          return some (.generated
            ("color=c=black@0:size=" ++ format.resolution ++ ":rate=" ++ format.fps.toText))
      | none => return none
  | _ => return none

/-- The logo is an uploaded file if one is named, and the installation's otherwise. -/
def logoInput (config : RawConfig) (settings : Settings) : Option Input :=
  if config.showLogo.isOn then
    some (.file
      (if config.logoFile.isOn then uploadedPath settings.uploadsDir config.logoFile
      else settings.logoPath))
  else none

/-- The video pad of an input. -/
def videoPad (index : Nat) : String := toString index ++ ":v"

/-- The video inputs in order, with the pads that the graph refers to them by. -/
structure VideoInputs where
  background : Input
  animation : Option Input
  logo : Option Input

namespace VideoInputs

def all (inputs : VideoInputs) : List Input :=
  inputs.background :: (inputs.animation.toList ++ inputs.logo.toList)

/-- The logo comes after the background and the animation. -/
def logoIndex (inputs : VideoInputs) : Nat := 1 + inputs.animation.toList.length

def pads (inputs : VideoInputs) : Picture.Inputs where
  base := videoPad 0
  animation := inputs.animation.map fun _ => videoPad 1
  logo := inputs.logo.map fun _ => videoPad inputs.logoIndex

end VideoInputs

/-! ## Output -/

/-- The sound is held back by the time that the picture is, and follows its clock. -/
def audioFilters (gain : Option String) : String :=
  String.intercalate "," (["adelay=300:all=1", "aresample=async=1"] ++
    (match gain with
    | some gain => ["volume=" ++ gain]
    | none => []))

/-- The arguments after the graph, up to the device. -/
def outputArgs (format : Format) (audio : Audio.Plan) (audioIndex : Nat)
    (gain : Option String) (device : String) : List String :=
  let channels := toString audio.channels
  ["-map", "[v]", "-map", toString audioIndex ++ ":a", "-af", audioFilters gain,
    "-c:a", "pcm_s16le", "-ar", toString Audio.sampleRate, "-ac", channels,
    "-channel_layout", audio.layout, "-vsync", "1"] ++ format.outputArgs ++
    ["-audio_depth", "16", "-channels", channels, device]

/-! ## Compiling -/

/--
Compiles a configuration.  The device is resolved last, so a compile that cannot
succeed does not look for devices.
-/
def compile (config : RawConfig) (settings : Settings) (clock : Clock.Reading) (fonts : Fonts)
    (devices : Device.Cache) : HostRun (Command × Device.Cache) := do
  let format := Format.ofValue config.videoFormat
  let background := effectiveBackground config
  let animation ← HostRun.ofExcept (animationInput config.animation format)
  let video : VideoInputs :=
    { background := backgroundInput background config format settings
      animation
      logo := logoInput config settings }
  let audio ← HostRun.ofExcept
    (Audio.synthesize config.audioChannelMap config.audioChannelIdCycle
      config.audioChannelFlash config.audioChannelForce400 config.audioFreq format.fps)
  let audioIndex := video.all.length
  let inputs := video.all ++ [.generated audio.source]
  let graph ←
    Picture.graph config { format, background, inputs := video.pads, audio, clock } fonts
  let gain ← HostRun.ofExcept (Audio.gainOf config.audioLevelDb)
  let (device, devices) ← devices.resolve config.decklinkDevice
  let command : Command :=
    { args :=
        [settings.ffmpegPath] ++ inputs.flatMap Input.args ++
          ["-filter_complex", graph.render] ++ outputArgs format audio audioIndex gain device
      graph
      channels := audio.channels
      layout := audio.layout
      device
      audioIndex }
  return (command, devices)

end Command

end TestSignal
