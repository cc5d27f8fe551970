import TestSignal.Proofs.Command.Compile
import TestSignal.Proofs.Command.Options
import TestSignal.Proofs.Device.Discovery
import TestSignal.Proofs.Picture.Drawn

namespace TestSignal

open Binary64 Outcome

/-!
# A checked configuration always compiles

No fault of a compile can be reached from a configuration that the check has let through.
The sound and the picture are made of numbers within limits, and every name that is looked
up stands in its table.  Fonts that are not there, a file system that refuses a look, and a
source of sinks that answers nothing or faults, all leave something to go on with.

The clock is the one part that needs more than a checked configuration.  If it is shown,
the numbers of the timebase have to be finite, and the instant at which the stream starts
has to lie in the calendar.
-/

/-! ## The sound -/

namespace Audio

/-- A number that is kept within two integers is finite, and so is what it is made from. -/
theorem exists_frequencyOf {x : Number} (bounds : (20 : Number).le x = true ∧ x.le 20000 = true) :
    ∃ frequency, frequencyOf (.number x) = .ok frequency ∧ frequency.isFinite = .ok true := by
  rcases Value.exists_asNumber_of_le bounds.1 bounds.2 (show 20000 < 2 ^ 53 by decide)
    (by decide) (by decide) with ⟨value, read, within⟩
  refine ⟨_, bind_ok.mpr ⟨some value, read, rfl⟩, ?_⟩
  have finite : (Number.float value).isFinite = .ok true := congrArg Except.ok within.isFinite
  have limit := Number.two_pow_lt_integerLimit
  have lowest : Limit.lowestFrequency.isFinite = .ok true :=
    Number.isFinite_int (show 20 < Number.integerLimit by omega)
  have highest : Limit.highestFrequency.isFinite = .ok true :=
    Number.isFinite_int (show 20000 < Number.integerLimit by omega)
  rcases Number.clamp_cases (.float value) Limit.lowestFrequency Limit.highestFrequency with
    same | same | same
  · exact (congrArg Number.isFinite same).trans finite
  · exact (congrArg Number.isFinite same).trans lowest
  · exact (congrArg Number.isFinite same).trans highest

/-- Every format has gates for its rate. -/
theorem exists_flashGates {format : Format} (known : format ∈ Format.all) :
    ∃ gates, flashGates format.fps = .ok gates := by
  have table : ∀ format ∈ Format.all, (flashGates format.fps).isOk = true := by decide +kernel
  exact exists_ok (table format known)

theorem exists_slotExpr (slot : Slot) (frequency : Number) {format : Format}
    (known : format ∈ Format.all) : ∃ expr, slotExpr slot frequency format.fps = .ok expr := by
  rcases exists_flashGates known with ⟨gates, gated⟩
  unfold slotExpr
  split
  case isTrue => exact ⟨_, rfl⟩
  case isFalse =>
      split
      case isTrue =>
          refine exists_bind gated ?_
          split
          · exact ⟨_, rfl⟩
          · exact ⟨_, rfl⟩
      case isFalse => exact ⟨_, rfl⟩

theorem exists_gainOf {level : Number}
    (bounds : (Number.int (-120)).le level = true ∧ level.le 12 = true) :
    ∃ gain, gainOf (.number level) = .ok gain := by
  rcases Value.exists_asNumber_of_le bounds.1 bounds.2 (show 120 < 2 ^ 53 by decide)
    (by decide) (by decide) with ⟨value, read, _⟩
  exact exists_bind read ⟨_, rfl⟩

end Audio

namespace Command

variable {config : Config}

/-- The sound of a well-formed configuration has a switch for every slot in each of its lists,
so nothing is looked up beyond the end of one. -/
theorem exists_soundOf (formed : config.WellFormed) :
    ∃ plan, soundOf config.toRaw = .ok plan ∧ plan.Complete ∧
      plan.frequency.isFinite = .ok true := by
  rcases Audio.exists_frequencyOf formed.audio_freq with ⟨frequency, tuned, finite⟩
  have known := Format.ofValue_mem_all config.toRaw.videoFormat
  have mapped : ∃ map,
      Channels.activeMap config.toRaw.audioChannelMap (.int 2) = .ok map := ⟨_, rfl⟩
  rcases mapped with ⟨map, mapped⟩
  have length := (Config.activeMap_spec mapped).1
  have voiced : ∃ expressions,
      (List.range channelSlots).mapM (fun index => do
        let slot ← Audio.slotAt map (Channels.flags config.toRaw.audioChannelIdCycle)
          (Channels.flags config.toRaw.audioChannelFlash)
          (Channels.flags config.toRaw.audioChannelForce400) index
        Audio.slotExpr slot frequency (Format.ofValue config.toRaw.videoFormat).fps) =
          .ok expressions := by
    refine exists_mapM fun index member => ?_
    have bound := List.mem_range.mp member
    have asked : ∃ slot, Audio.slotAt map (Channels.flags config.toRaw.audioChannelIdCycle)
        (Channels.flags config.toRaw.audioChannelFlash)
        (Channels.flags config.toRaw.audioChannelForce400) index = .ok slot := by
      apply Audio.exists_slotAt <;> simpa only [length, Config.length_flags] using bound
    rcases asked with ⟨slot, read⟩
    exact exists_bind read (Audio.exists_slotExpr slot frequency known)
  rcases voiced with ⟨expressions, voiced⟩
  have made : ∃ plan, soundOf config.toRaw = .ok plan ∧ plan.frequency = frequency :=
    ⟨_, bind_ok.mpr ⟨map, mapped, bind_ok.mpr ⟨frequency, tuned,
      bind_ok.mpr ⟨expressions, voiced, rfl⟩⟩⟩, rfl⟩
  rcases made with ⟨plan, sounds, rfl⟩
  exact ⟨plan, sounds, (Audio.madeFrom_synthesize sounds).complete, finite⟩

/-! ## The inputs -/

/-- A picture that is generated for an animation is as large as the format asks for. -/
theorem exists_animationInput {format : Format} (known : format ∈ Format.all)
    (animation : Value) : ∃ input, animationInput animation format = .ok input := by
  have table : ∀ format ∈ Format.all, (Picture.blockSize format).isOk = true := by
    decide +kernel
  rcases exists_ok (table format known) with ⟨size, sized⟩
  unfold animationInput
  split
  case h_1 _ id =>
      cases Animation.ofId? id with
      | none => exact ⟨none, rfl⟩
      | some kind =>
          cases kind with
          | square => exact exists_bind sized ⟨_, rfl⟩
          | staircasePulse => exact ⟨_, rfl⟩
  case h_2 => exact ⟨none, rfl⟩

end Command

/-! ## The graph -/

namespace Picture

/-- Every step of the picture can be made, so the graph can. -/
theorem exists_graph {config : Config} (formed : config.WellFormed)
    (short : config.text.length < 2 ^ 63) {scene : Scene} (known : scene.format ∈ Format.all)
    (complete : scene.audio.Complete) (tuned : scene.audio.frequency.isFinite = .ok true)
    {timebase : Clock.Timebase} (read : scene.clock = timebase.reading) (finite : timebase.AllFinite)
    (starts : config.showClock = true →
      ∃ micros, timebase.StartsAt (.int config.clockLatencyMs) micros)
    (fonts : Fonts) {host : Host} (tells : host.TellsFiles) :
    ∃ drawn after, graph config.toRaw scene fonts host = (.ok drawn, after) := by
  rcases exists_textSteps formed short fonts tells with ⟨text, after, written⟩
  rcases exists_animationSteps known config.toRaw.animation scene.inputs.animation with
    ⟨animation, animated⟩
  rcases exists_clockSteps formed known read finite starts fonts with ⟨clock, timed⟩
  rcases exists_statusSteps formed known complete tuned fonts with ⟨status, told⟩
  rcases exists_flashSteps formed known fonts with ⟨flash, cued⟩
  have laid : ∃ made end_, steps config.toRaw scene fonts host = (.ok made, end_) := by
    refine HostRun.exists_bind written ?_
    refine HostRun.exists_ofExcept ?_
    refine exists_bind animated ?_
    refine exists_bind timed ?_
    refine exists_bind told ?_
    exact exists_bind cued ⟨_, rfl⟩
  rcases laid with ⟨made, end_, laid⟩
  exact HostRun.exists_bind laid ⟨_, end_, rfl⟩

end Picture

/-! ## The command -/

namespace Command

/-- Every well-formed configuration compiles, as long as a clock that is shown can be. -/
theorem exists_compile_of_wellFormed {config : Config} (formed : config.WellFormed)
    (short : config.text.length < 2 ^ 63) (settings : Settings) (fonts : Fonts)
    (devices : Device.Cache) {timebase : Clock.Timebase} (finite : timebase.AllFinite)
    (starts : config.showClock = true →
      ∃ micros, timebase.StartsAt (.int config.clockLatencyMs) micros)
    {host : Host} (tells : host.TellsFiles) :
    ∃ command found after,
      compile config.toRaw settings timebase.reading fonts devices host =
        (.ok (command, found), after) := by
  have known := Format.ofValue_mem_all config.toRaw.videoFormat
  rcases exists_animationInput known config.toRaw.animation with ⟨animation, animated⟩
  rcases exists_soundOf formed with ⟨audio, sounds, complete, tuned⟩
  let video : VideoInputs :=
    { background :=
        backgroundInput (effectiveBackground config.toRaw) config.toRaw
          (Format.ofValue config.toRaw.videoFormat) settings
      animation
      logo := logoInput config.toRaw settings }
  have made : video.MadeFrom config.toRaw settings :=
    { background := rfl, animation := animated, logo := rfl }
  have drawn : ∃ graph drawn, Picture.graph config.toRaw
      (sceneOf config.toRaw video audio timebase.reading) fonts host = (.ok graph, drawn) :=
    Picture.exists_graph formed short known complete tuned rfl finite starts fonts tells
  rcases drawn with ⟨graph, drawn, built⟩
  rcases Audio.exists_gainOf formed.audio_level_db with ⟨gain, gained⟩
  rcases devices.exists_resolve config.toRaw.decklinkDevice drawn with ⟨⟨device, found⟩, after,
    chosen⟩
  exact ⟨_, found, after, compile_ok.mpr ⟨video, audio, graph, drawn, gain, device, made, sounds,
    built, gained, chosen, rfl⟩⟩

/--
Every checked configuration compiles, with any settings, fonts and devices and whatever the
outside says about files and sinks, as long as a clock that is shown can be.  Texts are as
long as a count of characters in 64 bits can say.
-/
theorem exists_compile {data : Value} {config : Config}
    (checked : Config.ofValue data = .ok config) (short : config.text.length < 2 ^ 63)
    (settings : Settings) (fonts : Fonts) (devices : Device.Cache) {timebase : Clock.Timebase}
    (finite : timebase.AllFinite)
    (starts : config.showClock = true →
      ∃ micros, timebase.StartsAt (.int config.clockLatencyMs) micros)
    {host : Host} (tells : host.TellsFiles) :
    ∃ command found after,
      compile config.toRaw settings timebase.reading fonts devices host =
        (.ok (command, found), after) := by
  have formed : config.WellFormed := (Config.ofValue_ok.mp checked).wellFormed
  exact exists_compile_of_wellFormed formed short settings fonts devices finite starts tells

/-- A clock, letters near the end of the finite numbers, and a flash on the first channel. -/
def showcaseData : Value :=
  .object [
    ("showClock", .bool true),
    ("clockLatencyMs", .number 250),
    ("text", .string "ON\nAIR"),
    ("fontSize", .number (.float (Binary64.ofDecimal false 17 307))),
    ("audioChannelFlash", .list [.bool true]),
    ("showConfigOverlay", .bool true) ]

/-- A clock that starts in 2024, half a second ahead, an hour east. -/
def showcaseTimebase : Clock.Timebase where
  epochMs := 1717243200000
  offsetMs := .float (Binary64.ofDecimal false 5125 (-1))
  uncertaintyMs := some 3
  zone := { offsetMicros := 3600000000, shortName := some "CET" }

/-- A host that refuses every look for a file, and whose programs do not end in time. -/
def showcaseHost : Host :=
  { Host.idle with exists? := fun _ => .error (.reported .system "Permission denied") }

theorem exists_compile_showcase :
    ∃ config, Config.ofValue showcaseData = .ok config ∧ config.showClock = true ∧
      ∃ command found after,
        compile config.toRaw { picturesDir := Path.ofText "/srv", uploadsDir := Path.ofText "/up" }
          showcaseTimebase.reading (Fonts.standard "/font.ttf") {} showcaseHost =
            (.ok (command, found), after) := by
  have accepted : (Config.ofValue showcaseData).toOption.any (fun config =>
      config.showClock && config.clockLatencyMs == 250 &&
        decide (config.text.length < 2 ^ 63)) = true := by decide +kernel
  have tells : showcaseHost.TellsFiles := by
    intro path fault refused
    cases refused
    exact .inl rfl
  have finite : showcaseTimebase.AllFinite :=
    { epoch := by decide +kernel
      offset := by decide +kernel
      uncertainty := by decide +kernel }
  have started : (showcaseTimebase.startSeconds (.int 250)).toOption.any (fun seconds =>
      Clock.Instant.microsOf? seconds = some 1717243200762500) = true := by decide +kernel
  rcases any_ok.mp started with ⟨seconds, startSeconds, counted⟩
  have starts : showcaseTimebase.StartsAt (.int 250) 1717243200762500 :=
    { counted := ⟨seconds, startSeconds, of_decide_eq_true counted⟩
      dated := by decide +kernel
      dated_here := by decide +kernel }
  rcases any_ok.mp accepted with ⟨config, checked, tested⟩
  rw [Bool.and_eq_true, Bool.and_eq_true, beq_iff_eq, decide_eq_true_iff] at tested
  rcases tested with ⟨⟨shown, latency⟩, short⟩
  refine ⟨config, checked, shown, ?_⟩
  refine exists_compile checked short _ _ _ finite (fun _ => ⟨1717243200762500, ?_⟩) tells
  rw [latency]
  exact starts

end Command

end TestSignal
