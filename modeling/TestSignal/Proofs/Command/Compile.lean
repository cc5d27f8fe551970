import TestSignal.Proofs.Outcome
import TestSignal.Station

namespace TestSignal

namespace Command

/-!
# What a compile puts together

A compile makes the video inputs, the sound, the graph and the gain, finds a device,
and puts a command together from them.  It succeeds exactly when each of these does, in
that order and on the host that the one before leaves.  Statements about compiled
commands go through this account, and then speak about the parts.
-/

/-- The video inputs that a configuration and an installation ask for. -/
structure VideoInputs.MadeFrom (video : VideoInputs) (config : RawConfig)
    (settings : Settings) : Prop where
  background : video.background =
    backgroundInput (effectiveBackground config) config (Format.ofValue config.videoFormat)
      settings
  animation :
    animationInput config.animation (Format.ofValue config.videoFormat) = .ok video.animation
  logo : video.logo = logoInput config settings

/-- The sound that a configuration asks for. -/
def soundOf (config : RawConfig) : Except Fault Audio.Plan :=
  Audio.synthesize config.audioChannelMap config.audioChannelIdCycle config.audioChannelFlash
    config.audioChannelForce400 config.audioFreq (Format.ofValue config.videoFormat).fps

/-- What the graph is drawn from, when the inputs and the sound are made. -/
def sceneOf (config : RawConfig) (video : VideoInputs) (audio : Audio.Plan)
    (clock : Clock.Reading) : Picture.Scene where
  format := Format.ofValue config.videoFormat
  background := effectiveBackground config
  inputs := video.pads
  audio
  clock

/-- The command that is put together from its parts. -/
def ofParts (settings : Settings) (format : Format) (video : VideoInputs) (audio : Audio.Plan)
    (graph : FilterGraph) (gain : Option String) (device : String) : Command where
  args :=
    [settings.ffmpegPath] ++ (video.all ++ [Input.generated audio.source]).flatMap Input.args ++
      ["-filter_complex", graph.render] ++ outputArgs format audio video.all.length gain device
  graph
  channels := audio.channels
  layout := audio.layout
  device
  audioIndex := video.all.length

/-- A compile gives a command exactly when its parts are made and the command is theirs. -/
theorem compile_ok {config : RawConfig} {settings : Settings} {clock : Clock.Reading}
    {fonts : Fonts} {devices found : Device.Cache} {host after : Host} {command : Command} :
    compile config settings clock fonts devices host = (.ok (command, found), after) ↔
      ∃ video audio graph drawn gain device, video.MadeFrom config settings ∧
        soundOf config = .ok audio ∧
        Picture.graph config (sceneOf config video audio clock) fonts host =
          (.ok graph, drawn) ∧
        Audio.gainOf config.audioLevelDb = .ok gain ∧
        devices.resolve config.decklinkDevice drawn = (.ok (device, found), after) ∧
        command = ofParts settings (Format.ofValue config.videoFormat) video audio graph gain
          device := by
  constructor
  · intro compiled
    rcases HostRun.bind_ok.mp compiled with ⟨animation, started, made, rest⟩
    rcases HostRun.ofExcept_ok.mp made with ⟨animated, rfl⟩
    rcases HostRun.bind_ok.mp rest with ⟨audio, sounded, made, rest⟩
    rcases HostRun.ofExcept_ok.mp made with ⟨sounds, rfl⟩
    rcases HostRun.bind_ok.mp rest with ⟨graph, drawn, built, rest⟩
    rcases HostRun.bind_ok.mp rest with ⟨gain, leveled, made, rest⟩
    rcases HostRun.ofExcept_ok.mp made with ⟨gained, rfl⟩
    rcases HostRun.bind_ok.mp rest with ⟨⟨device, known⟩, resolved, chosen, rest⟩
    rcases HostRun.pure_ok.mp rest with ⟨same, rfl⟩
    cases same
    exact ⟨_, audio, graph, drawn, gain, device,
      { background := rfl, animation := animated, logo := rfl }, sounds, built, gained, chosen,
      rfl⟩
  · rintro ⟨video, audio, graph, drawn, gain, device, made, sounds, built, gained, chosen, rfl⟩
    have videoIs : video =
        { background := backgroundInput (effectiveBackground config) config
            (Format.ofValue config.videoFormat) settings
          animation := video.animation
          logo := logoInput config settings } := by
      rw [← made.background, ← made.logo]
    rw [videoIs] at built ⊢
    refine HostRun.bind_ok.mpr ⟨_, host, HostRun.ofExcept_ok.mpr ⟨made.animation, rfl⟩, ?_⟩
    refine HostRun.bind_ok.mpr ⟨audio, host, HostRun.ofExcept_ok.mpr ⟨sounds, rfl⟩, ?_⟩
    refine HostRun.bind_ok.mpr ⟨graph, drawn, built, ?_⟩
    refine HostRun.bind_ok.mpr ⟨gain, drawn, HostRun.ofExcept_ok.mpr ⟨gained, rfl⟩, ?_⟩
    refine HostRun.bind_ok.mpr ⟨(device, found), after, chosen, ?_⟩
    exact HostRun.pure_ok.mpr ⟨rfl, rfl⟩

/-- All of a compile but the device: a command for whichever device is found. -/
def draft (config : RawConfig) (settings : Settings) (clock : Clock.Reading) (fonts : Fonts) :
    HostRun (String → Command) := do
  let format := Format.ofValue config.videoFormat
  let animation ← HostRun.ofExcept (animationInput config.animation format)
  let video : VideoInputs :=
    { background := backgroundInput (effectiveBackground config) config format settings
      animation
      logo := logoInput config settings }
  let audio ← HostRun.ofExcept (soundOf config)
  let graph ← Picture.graph config (sceneOf config video audio clock) fonts
  let gain ← HostRun.ofExcept (Audio.gainOf config.audioLevelDb)
  return ofParts settings format video audio graph gain

/-- A compile finds a device for what it has drafted, and does nothing after that. -/
theorem compile_eq_draft (config : RawConfig) (settings : Settings) (clock : Clock.Reading)
    (fonts : Fonts) (devices : Device.Cache) :
    compile config settings clock fonts devices = do
      let drafted ← draft config settings clock fonts
      let (device, found) ← devices.resolve config.decklinkDevice
      return (drafted device, found) := by
  unfold compile draft
  simp only [bind_assoc, pure_bind]
  rfl

/-- The device is the last argument. -/
theorem getLast?_args_ofParts (settings : Settings) (format : Format) (video : VideoInputs)
    (audio : Audio.Plan) (graph : FilterGraph) (gain : Option String) (device : String) :
    (ofParts settings format video audio graph gain device).args.getLast? = some device := by
  unfold ofParts outputArgs
  simp only [List.getLast?_append, List.getLast?_cons_cons, List.getLast?_singleton,
    Option.some_or]

end Command

/-! ## Compiles of a station -/

namespace Station

variable {station next : Station} {host after : Host} {command : Command}

/-- A station compiles with what it has, and keeps the devices that are found. -/
theorem compileRaw_ok {config : RawConfig} :
    station.compileRaw config host = (.ok (command, next), after) ↔
      ∃ devices, Command.compile config station.settings station.timebase.reading station.fonts
          station.devices host = (.ok (command, devices), after) ∧
        next = { station with devices } := by
  constructor
  · intro done
    rcases HostRun.bind_ok.mp done with ⟨⟨made, devices⟩, between, compiled, kept⟩
    rcases HostRun.pure_ok.mp kept with ⟨same, rfl⟩
    cases same
    exact ⟨devices, compiled, rfl⟩
  · rintro ⟨devices, compiled, rfl⟩
    exact HostRun.bind_ok.mpr ⟨(command, devices), after, compiled, HostRun.pure_ok.mpr ⟨rfl, rfl⟩⟩

/-- Data is compiled by way of the configuration that the check gives. -/
theorem compileValue_ok {data : Value} :
    station.compileValue data host = (.ok (command, next), after) ↔
      ∃ config, Config.ofValue data = .ok config ∧
        station.compileRaw config.toRaw host = (.ok (command, next), after) := by
  constructor
  · intro done
    rcases HostRun.bind_ok.mp done with ⟨config, between, made, compiled⟩
    rcases HostRun.ofExcept_ok.mp made with ⟨checked, rfl⟩
    exact ⟨config, checked, compiled⟩
  · rintro ⟨config, checked, compiled⟩
    exact HostRun.bind_ok.mpr ⟨config, host, HostRun.ofExcept_ok.mpr ⟨checked, rfl⟩, compiled⟩

end Station

end TestSignal
