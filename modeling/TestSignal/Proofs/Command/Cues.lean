import TestSignal.Proofs.Command.Inputs
import TestSignal.Proofs.Command.Total
import TestSignal.Proofs.Overlay.Status

namespace TestSignal

open Outcome

/-!
# Where a command flashes

The picture flashes when any slot is asked to, the sound when such a slot is active as well,
and the status block lists what is heard.  So whatever is heard is also seen and listed; a
slot that is asked to flash but not active is seen only.  When no such slot is left, the
three agree.
-/

namespace Command

/-- The sound of a command, read off its parts. -/
theorem madeFrom_soundOf {config : RawConfig} {plan : Audio.Plan}
    (sounds : soundOf config = .ok plan) :
    plan.MadeFrom config.audioChannelMap config.audioChannelIdCycle config.audioChannelFlash
      config.audioChannelForce400 config.audioFreq (Format.ofValue config.videoFormat).fps :=
  Audio.madeFrom_synthesize sounds

/-- What sound, picture and status block of a command say about the flash. -/
structure FlashAccount (config : RawConfig) (fonts : Fonts) (command : Command)
    (plan : Audio.Plan) (gates : Audio.FlashGates) : Prop where
  /-- The audio input is generated from the expressions of the plan. -/
  source : command.inputGroups[command.audioIndex]? =
    some [("-f", "lavfi"), ("-i", plan.source)]
  /-- The sound has the gates when some active slot is asked to flash. -/
  sound : (∃ e ∈ plan.expressions, gates.OccurIn e.escapedText) ↔ ∃ index, plan.Flashes index
  /-- A slot that flashes is an output channel. -/
  leaves : ∀ index, plan.Flashes index → index < command.channels
  /-- The picture has the cues when some slot is asked to flash, active or not. -/
  picture : command.graph.drawnBy "flash" ≠ [] ↔
    ∃ index, plan.flash.getD index false = true
  cues : command.graph.drawnBy "flash" ≠ [] →
    Overlay.flashFilters (Format.ofValue config.videoFormat) config.flashOverlayOffset
      fonts.default = .ok (command.graph.drawnBy "flash")
  /-- The status block ends with a line that names a channel when the sound has the gates. -/
  status : config.showConfigOverlay.isOn = true →
    ∃ line,
      ((command.graph.drawnBy "overlay").getLast?.bind fun filter => filter.option? "text") =
          some (.literal line) ∧
        "▌ 1-frame Flash: ".toList <+: line.toList ∧
        (Overlay.NamesChannel line ↔ ∃ index, plan.Flashes index)

namespace FlashAccount

variable {config : RawConfig} {fonts : Fonts} {command : Command} {plan : Audio.Plan}
  {gates : Audio.FlashGates}

/-- What is heard is also seen. -/
theorem seen_of_heard (account : command.FlashAccount config fonts plan gates)
    (heard : ∃ e ∈ plan.expressions, gates.OccurIn e.escapedText) :
    command.graph.drawnBy "flash" ≠ [] := by
  rcases account.sound.mp heard with ⟨index, _, asked⟩
  exact account.picture.mpr ⟨index, asked⟩

/-- What is seen is also heard when no inactive slot is asked to flash. -/
theorem heard_of_seen (account : command.FlashAccount config fonts plan gates)
    (active : ∀ index, plan.flash.getD index false = true →
      plan.channelMap.getD index false = true)
    (seen : command.graph.drawnBy "flash" ≠ []) :
    ∃ e ∈ plan.expressions, gates.OccurIn e.escapedText := by
  rcases account.picture.mp seen with ⟨index, asked⟩
  exact account.sound.mpr ⟨index, active index asked, asked⟩

end FlashAccount

theorem flashAccount_ofParts {config : RawConfig} {settings : Settings} {video : VideoInputs}
    {audio : Audio.Plan} {clock : Clock.Reading} {fonts : Fonts} {host after : Host}
    {graph : FilterGraph} {gates : Audio.FlashGates} (made : video.MadeFrom config settings)
    (sounds : soundOf config = .ok audio)
    (gated : Audio.flashGates (Format.ofValue config.videoFormat).fps = .ok gates)
    (built : Picture.graph config (sceneOf config video audio clock) fonts host =
      (.ok graph, after)) (gain : Option String) (device : String) :
    (ofParts settings (Format.ofValue config.videoFormat) video audio graph gain
      device).FlashAccount config fonts audio gates := by
  have known := Format.ofValue_mem_all config.videoFormat
  have parts : Drawn config settings video audio graph := ⟨made, clock, fonts, host, after, built⟩
  have drawing := Picture.drawing_graph built
  have sound := madeFrom_soundOf sounds
  constructor
  case source =>
      rw [(parts.numbersInputsAlike known gain device).groups, List.getElem?_map]
      change (video.all ++ [Input.generated audio.source])[video.all.length]?.map _ = _
      rw [List.getElem?_concat_length]
      rfl
  case sound => exact sound.exists_occurIn_iff gated
  case leaves => exact fun index flashes => sound.lt_channels flashes.1
  case picture => exact drawing.flash_cues.1.trans Audio.any_iff_getD
  case cues => exact drawing.flash_cues.2
  case status =>
      intro shown
      rcases drawing.flash_line shown with ⟨channels, read, drawnLast⟩
      refine ⟨_, drawnLast, ?_, Overlay.namesChannel_flashLine_iff sound read⟩
      unfold Overlay.roleLine
      rw [String.toList_append]
      exact List.prefix_append _ _

/--
The sound of every compiled command has the gates of the flash, and its status block names a
channel for it, when some active slot is asked to flash; its picture has the cues when any
slot is.  What is heard is seen, and the three agree when no inactive slot is asked to flash.
-/
theorem flash_of_compile {config : RawConfig} {settings : Settings} {clock : Clock.Reading}
    {fonts : Fonts} {devices found : Device.Cache} {host after : Host} {command : Command}
    (compiled : compile config settings clock fonts devices host =
      (.ok (command, found), after)) :
    ∃ plan gates, soundOf config = .ok plan ∧
      Audio.flashGates (Format.ofValue config.videoFormat).fps = .ok gates ∧
      command.FlashAccount config fonts plan gates ∧
      ((∃ e ∈ plan.expressions, gates.OccurIn e.escapedText) →
        command.graph.drawnBy "flash" ≠ []) ∧
      ((∀ index, plan.flash.getD index false = true →
          plan.channelMap.getD index false = true) →
        (command.graph.drawnBy "flash" ≠ [] ↔
          ∃ e ∈ plan.expressions, gates.OccurIn e.escapedText)) := by
  rcases compile_ok.mp compiled with
    ⟨video, audio, graph, drawn, gain, device, made, sounds, built, _, _, rfl⟩
  rcases Audio.exists_flashGates (Format.ofValue_mem_all config.videoFormat) with ⟨gates, gated⟩
  have account := flashAccount_ofParts made sounds gated built gain device
  exact ⟨audio, gates, sounds, gated, account, account.seen_of_heard,
    fun active => ⟨account.heard_of_seen active, account.seen_of_heard⟩⟩

/-- Two channels that are asked to flash, of which one is active, with the status block shown. -/
def flashingConfig : RawConfig :=
  { Config.standard.toRaw with
    audioChannelFlash := .list [.bool true, .bool false, .bool true]
    showConfigOverlay := .bool true }

theorem flash_of_compile_showcase :
    ∃ command found after,
      compile flashingConfig showcaseSettings Picture.showcaseClock
        (Fonts.standard "/mono.ttf") {} Host.idle = (.ok (command, found), after) ∧
      ∃ plan gates, soundOf flashingConfig = .ok plan ∧
        (∃ e ∈ plan.expressions, Audio.FlashGates.OccurIn gates e.escapedText) ∧
        command.graph.drawnBy "flash" ≠ [] := by
  have finishes : (compile flashingConfig showcaseSettings Picture.showcaseClock
      (Fonts.standard "/mono.ttf") {} Host.idle).1.isOk = true := by decide +kernel
  rcases HostRun.exists_ok finishes with ⟨⟨command, found⟩, after, compiled⟩
  refine ⟨command, found, after, compiled, ?_⟩
  rcases flash_of_compile compiled with ⟨plan, gates, sounds, _, account, seen, _⟩
  have made := madeFrom_soundOf sounds
  have first : plan.Flashes 0 := by
    constructor
    · rw [← Except.ok.inj made.channel_map]
      rfl
    · rw [made.flash]
      rfl
  have heard := account.sound.mpr ⟨0, first⟩
  exact ⟨plan, gates, sounds, heard, seen heard⟩

/-- The third channel is asked to flash, and only the first two are active. -/
def mutedFlash : Value :=
  .object [("audioChannelFlash", .list [.bool false, .bool false, .bool true])]

/-- A channel that is asked to flash and is not active is seen, and not heard. -/
theorem seen_and_not_heard :
    ∃ config, Config.ofValue mutedFlash = .ok config ∧
      ∃ command found after,
        compile config.toRaw showcaseSettings Picture.showcaseClock
          (Fonts.standard "/mono.ttf") {} Host.idle = (.ok (command, found), after) ∧
        ∃ plan gates, soundOf config.toRaw = .ok plan ∧
          Audio.flashGates (Format.ofValue config.toRaw.videoFormat).fps = .ok gates ∧
          command.graph.drawnBy "flash" ≠ [] ∧
          ¬∃ e ∈ plan.expressions, gates.OccurIn e.escapedText := by
  let config : Config :=
    { Config.standard with
      audioChannelFlash := [false, false, true, false, false, false, false, false] }
  have checked : Config.ofValue mutedFlash = .ok config := by
    have found : (Config.ofValue mutedFlash).toOption.any (fun found => found = config) = true := by
      decide +kernel
    rcases any_ok.mp found with ⟨result, checked, same⟩
    have same := of_decide_eq_true same
    exact checked.trans (congrArg Except.ok same)
  have finishes : (compile config.toRaw showcaseSettings Picture.showcaseClock
      (Fonts.standard "/mono.ttf") {} Host.idle).1.isOk = true := by decide +kernel
  rcases HostRun.exists_ok finishes with ⟨⟨command, found⟩, after, compiled⟩
  refine ⟨config, checked, command, found, after, compiled, ?_⟩
  rcases compile_ok.mp compiled with
    ⟨video, audio, graph, drawn, gain, device, parts, sounds, built, _, _, rfl⟩
  rcases Audio.exists_flashGates (Format.ofValue_mem_all config.toRaw.videoFormat) with ⟨gates, gated⟩
  have account := flashAccount_ofParts parts sounds gated built gain device
  have made := madeFrom_soundOf sounds
  have flash : audio.flash = config.audioChannelFlash := made.flash
  have channelMap : audio.channelMap = Config.standard.audioChannelMap :=
    (Except.ok.inj made.channel_map).symm
  refine ⟨audio, gates, sounds, gated, ?_, ?_⟩
  · rw [account.picture, flash]
    exact ⟨2, rfl⟩
  · rw [account.sound]
    rintro ⟨index, active, asked⟩
    have bound := Audio.lt_of_getD asked
    rw [flash] at bound asked
    rw [channelMap] at active
    have apart : ∀ index < 8, ¬(Config.standard.audioChannelMap.getD index false = true ∧
        config.audioChannelFlash.getD index false = true) := by decide
    exact apart index bound ⟨active, asked⟩

end Command

end TestSignal
