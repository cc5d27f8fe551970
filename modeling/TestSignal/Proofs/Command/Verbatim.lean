import TestSignal.Api
import TestSignal.Proofs.Command.Cues
import TestSignal.Proofs.Config.Settled

namespace TestSignal

open Config Outcome

/-!
# A checked configuration is compiled as it is

The values of a checked configuration reach the command unchanged: the format and the
background are looked up once, the sound has the configured frequency and channels, and every
text, line, box and picture is drawn with the configured size, offset, delay and position.
What a preview shows as its configuration is therefore what it has compiled.

Each feature is read off the graph by its kind, so the statements are about the filters that
are drawn and not about how they were made.
-/

/-! ## The background -/

/-- The identifier of the background that is used: blue in place of an upload without a file. -/
def Config.usedBackground (config : Config) : String :=
  if config.background = Background.customId ∧ config.customBackground = none then "blue"
  else config.background

namespace Config.WellFormed

variable {config : Config}

theorem usedBackground (formed : config.WellFormed) :
    Background.ofId? config.usedBackground = some (Command.effectiveBackground config.toRaw) := by
  have found := Background.ofId?_of_mem formed.background
  have named : (Background.ofValue (.string config.background)).id = config.background := by
    have chosen := List.find?_some found
    exact of_decide_eq_true chosen
  unfold Config.usedBackground Command.effectiveBackground
  change _ = some (if (Background.ofValue (.string config.background)).id = Background.customId &&
    !(Value.optionalString config.customBackground).isOn then _ else _)
  rw [named]
  cases file : config.customBackground with
  | none =>
      by_cases custom : config.background = Background.customId
      · simp only [custom, true_and, if_true, Value.optionalString, Value.isOn, Bool.not_false,
          decide_true, Bool.and_true]
        decide
      · simp only [custom, false_and, if_false, decide_false, Bool.false_and, Bool.false_eq_true]
        exact found
  | some name =>
      have given : (Value.optionalString (some name)).isOn = true := by
        have nonempty := formed.custom_background name file
        change (!name.isEmpty) = true
        simpa using nonempty
      rw [given, Bool.not_true, Bool.and_false, if_neg Bool.false_ne_true, if_neg (by simp)]
      exact found

end Config.WellFormed

/-! ## What is drawn -/

namespace Overlay

/-- Each line of the text is drawn in the size of its style. -/
theorem fontsize_textFilters {text : String} {style : TextStyle} {anchor : Anchor}
    {filters : List Filter} (made : textFilters text style anchor = .ok filters) :
    ∀ filter ∈ filters, filter.option? "fontsize" = some (.number style.size) := by
  refine forall_of_mapM_ok (fun line _ filter drawn => ?_) made
  rcases bind_ok.mp drawn with ⟨border, _, drawn⟩
  rcases bind_ok.mp drawn with ⟨box, _, drawn⟩
  rcases bind_ok.mp drawn with ⟨y, _, drawn⟩
  rw [← pure_ok.mp drawn]
  cases style.font <;> rfl

/-- Each line of the status block is drawn in the given size. -/
theorem fontsize_statusFilters {lines : List String} {format : Format} {size : Int}
    (low : 16 ≤ size) (high : size ≤ 160) {anchor : Anchor} {font : Font}
    {filters : List Filter}
    (made : statusFilters lines format (.int size) anchor font = .ok filters) :
    ∀ filter ∈ filters, filter.option? "fontsize" = some (.int size) := by
  unfold statusFilters at made
  split at made
  case isTrue =>
      rw [← pure_ok.mp made]
      exact fun filter member => absurd member List.not_mem_nil
  case isFalse =>
      rcases bind_ok.mp made with ⟨layout, placed, made⟩
      have sized : layout.size = size := by
        rcases bind_ok.mp placed with ⟨chosen, fitted, placed⟩
        rcases bind_ok.mp placed with ⟨spacing, _, placed⟩
        rcases bind_ok.mp placed with ⟨border, _, placed⟩
        rcases bind_ok.mp placed with ⟨startY, _, placed⟩
        rw [← pure_ok.mp placed]
        exact Except.ok.inj (fitted.symm.trans (overlayFontSize_int low high format.height))
      rw [← pure_ok.mp made]
      intro filter member
      rcases List.mem_map.mp member with ⟨⟨line, index⟩, _, rfl⟩
      rw [← sized]
      cases font <;> rfl

/-- The boxes of the cues start at the top for the offset as it is. -/
theorem top_flashFilters {format : Format} {offset : Int} (low : -100 ≤ offset)
    (high : offset ≤ 100) {font : Font} {filters : List Filter}
    (made : flashFilters format (.int offset) font = .ok filters) :
    ∃ top, offsetTop offset flashBoxHeight = .ok top ∧
      ∀ filter ∈ filters, filter.name = "drawbox" →
        filter.option? "y" = some (.quoted top.text) := by
  rcases mem_flashFilters made with ⟨top, raised, members⟩
  rw [flashBoxTop_int low high] at raised
  refine ⟨top, raised, fun filter member box => ?_⟩
  rcases members filter member with ⟨cue, size, rfl | rfl⟩
  · rfl
  · change "drawtext" = "drawbox" at box
    exact absurd box (by decide)

end Overlay

/-! ## The command -/

namespace Command

/-- A command in which every value is the one that the configuration has. -/
structure Verbatim (config : Config) (settings : Settings) (clock : Clock.Reading)
    (fonts : Fonts) (command : Command) (format : Format) (background : Background)
    (audio : Audio.Plan) : Prop where
  /-- The command is put together from these parts, with the gain for the level as it is. -/
  parts : ∃ video,
    video.background = backgroundInput background config.toRaw format settings ∧
      command = ofParts settings format video audio command.graph
        (Audio.levelGain config.audioLevelDb) command.device
  format_found : Format.ofId? config.videoFormat = some format
  rate : command.graph.drawnBy "fps" = [{ name := "fps", args := [.number format.fps] }]
  background_found : Background.ofId? config.usedBackground = some background
  scale : command.graph.drawnBy "base" =
    (Picture.scaleSteps format background).flatMap Picture.Step.filters
  frequency : audio.frequency.same config.audioFreq = true
  channel_map : audio.channelMap = config.audioChannelMap
  id_cycle : audio.idCycle = config.audioChannelIdCycle
  flash : audio.flash = config.audioChannelFlash
  force400 : audio.force400 = config.audioChannelForce400
  /-- The lines of the text, at their position. -/
  text_lines : ∃ font size,
    Overlay.textFilters config.text
      { font, size, color := .string config.textColor, weight := .string config.textWeight
        background := .string config.textBackground } config.textPosition =
          .ok (command.graph.drawnBy "txt") ∧
      size.same config.fontSize = true ∧
      ∀ filter ∈ command.graph.drawnBy "txt", filter.option? "fontsize" = some (.number size)
  /-- The logo, at its position. -/
  logo_placed : config.showLogo = true →
    command.graph.drawnBy "logo" =
      [ { name := "overlay"
          args := [.text (Placement.logo config.logoPosition).x,
            .text (Placement.logo config.logoPosition).y] } ]
  /-- The lines of a clock that has the latency, at their position. -/
  clock_lines : config.showClock = true →
    ∃ timing, timing.latencyMs = .int config.clockLatencyMs ∧
      Clock.Timing.ofReading { clock with latencyMs := .int config.clockLatencyMs }
        (.number format.fps) .null = .ok timing ∧
      Clock.filters timing format config.clockPosition fonts.default =
        .ok (command.graph.drawnBy "clock")
  /-- The lines of the status block, at their position and in the size, if one is set. -/
  status_lines : config.showConfigOverlay = true →
    ∃ lines, Overlay.statusLines format.id audio (.number config.audioLevelDb) = .ok lines ∧
      Overlay.statusFilters lines format config.toRaw.configOverlayFontSize
        config.configOverlayPosition fonts.default = .ok (command.graph.drawnBy "overlay") ∧
      ∀ size ∈ config.configOverlayFontSize, ∀ filter ∈ command.graph.drawnBy "overlay",
        filter.option? "fontsize" = some (.int size)
  /-- The boxes of the flash, moved by the offset. -/
  flash_boxes : true ∈ config.audioChannelFlash →
    command.graph.drawnBy "flash" ≠ [] ∧
      ∃ top, Overlay.offsetTop config.flashOverlayOffset Overlay.flashBoxHeight = .ok top ∧
        ∀ filter ∈ command.graph.drawnBy "flash", filter.name = "drawbox" →
          filter.option? "y" = some (.quoted top.text)

section Features

variable {entries : List (String × Value)} {config : Config} {scene : Picture.Scene}
  {fonts : Fonts} {host after : Host} {graph : FilterGraph}

theorem text_verbatim (read : ReadFrom entries config)
    (drawing : Picture.Drawing config.toRaw scene fonts host after graph) :
    ∃ font size,
      Overlay.textFilters config.text
        { font, size, color := .string config.textColor, weight := .string config.textWeight
          background := .string config.textBackground } config.textPosition =
            .ok (graph.drawnBy "txt") ∧
        size.same config.fontSize = true ∧
        ∀ filter ∈ graph.drawnBy "txt", filter.option? "fontsize" = some (.number size) := by
  rcases drawing.text with ⟨steps, made, drawn⟩
  have shown : config.toRaw.text.isOn = true := by
    change (!config.text.isEmpty) = true
    rw [read.text, textOr_ne (by decide)]
    rfl
  unfold Picture.textSteps at made
  rw [shown, Bool.not_true, if_neg Bool.false_ne_true] at made
  rcases HostRun.bind_ok.mp made with ⟨font, between, _, made⟩
  rcases HostRun.ofExcept_ok.mp made with ⟨made, _⟩
  rcases bind_ok.mp made with ⟨size, sized, made⟩
  rcases bind_ok.mp made with ⟨filters, written, made⟩
  rw [drawn, ← pure_ok.mp made, Picture.flatMap_filters_onLine]
  have same : size.same config.fontSize = true := read.textSize sized
  have sizes := Overlay.fontsize_textFilters written
  change Overlay.textFilters _ _
    (anchorOr .center (.string config.textPosition.label)) = _ at written
  rw [anchorOr_label] at written
  exact ⟨font, size, written, same, sizes⟩

theorem clock_verbatim (formed : config.WellFormed)
    (drawing : Picture.Drawing config.toRaw scene fonts host after graph)
    (shown : config.showClock = true) :
    ∃ timing, timing.latencyMs = .int config.clockLatencyMs ∧
      Clock.Timing.ofReading { scene.clock with latencyMs := .int config.clockLatencyMs }
        (.number scene.format.fps) .null = .ok timing ∧
      Clock.filters timing scene.format config.clockPosition fonts.default =
        .ok (graph.drawnBy "clock") := by
  rcases drawing.clock with ⟨steps, made, drawn⟩
  unfold Picture.clockSteps at made
  rw [show config.toRaw.showClock.isOn = true from shown, Bool.not_true,
    if_neg Bool.false_ne_true] at made
  rcases bind_ok.mp made with ⟨timing, timed, made⟩
  rcases bind_ok.mp made with ⟨filters, placed, made⟩
  rw [drawn, ← pure_ok.mp made, Picture.flatMap_filters_onLine]
  have short : config.clockLatencyMs.natAbs < 2 ^ 51 := by
    have bounds := formed.clock_latency_ms
    omega
  change Clock.Timing.ofReading scene.clock _ (.int config.clockLatencyMs) = _ at timed
  rw [Clock.Timing.ofReading_latency _ _ short] at timed
  change Clock.filters timing _
    (anchorOr .bottomRight (.string config.clockPosition.label)) _ = _ at placed
  rw [anchorOr_label] at placed
  exact ⟨timing, Clock.Timing.latencyMs_ofReading timed, timed, placed⟩

theorem status_verbatim (formed : config.WellFormed)
    (drawing : Picture.Drawing config.toRaw scene fonts host after graph)
    (shown : config.showConfigOverlay = true) :
    ∃ lines,
      Overlay.statusLines scene.format.id scene.audio (.number config.audioLevelDb) =
        .ok lines ∧
      Overlay.statusFilters lines scene.format config.toRaw.configOverlayFontSize
        config.configOverlayPosition fonts.default = .ok (graph.drawnBy "overlay") ∧
      ∀ size ∈ config.configOverlayFontSize, ∀ filter ∈ graph.drawnBy "overlay",
        filter.option? "fontsize" = some (.int size) := by
  rcases drawing.status with ⟨steps, made, drawn⟩
  unfold Picture.statusSteps at made
  rw [show config.toRaw.showConfigOverlay.isOn = true from shown, Bool.not_true,
    if_neg Bool.false_ne_true] at made
  rcases bind_ok.mp made with ⟨lines, told, made⟩
  rcases bind_ok.mp made with ⟨filters, placed, made⟩
  rw [drawn, ← pure_ok.mp made, Picture.flatMap_filters_onLine]
  change Overlay.statusFilters lines _ _
    (anchorOr .topLeft (.string config.configOverlayPosition.label)) _ = _ at placed
  rw [anchorOr_label] at placed
  refine ⟨lines, told, placed, ?_⟩
  intro size chosen
  have bounds := formed.config_overlay_font_size size chosen
  have given : config.toRaw.configOverlayFontSize = .int size := by
    unfold toRaw
    rw [Option.mem_def.mp chosen]
  rw [given] at placed
  exact Overlay.fontsize_statusFilters bounds.1 bounds.2 placed

theorem flash_verbatim (formed : config.WellFormed)
    (drawing : Picture.Drawing config.toRaw scene fonts host after graph)
    (asked : scene.audio.anyFlash = true) :
    graph.drawnBy "flash" ≠ [] ∧
      ∃ top, Overlay.offsetTop config.flashOverlayOffset Overlay.flashBoxHeight = .ok top ∧
        ∀ filter ∈ graph.drawnBy "flash", filter.name = "drawbox" →
          filter.option? "y" = some (.quoted top.text) := by
  have seen := drawing.flash_cues.1.mpr asked
  have bounds := formed.flash_overlay_offset
  exact ⟨seen, Overlay.top_flashFilters bounds.1 bounds.2 (drawing.flash_cues.2 seen)⟩

theorem logo_verbatim {settings : Settings} {video : VideoInputs}
    (made : video.MadeFrom config.toRaw settings) (wired : scene.inputs = video.pads)
    (drawing : Picture.Drawing config.toRaw scene fonts host after graph)
    (shown : config.showLogo = true) :
    graph.drawnBy "logo" =
      [ { name := "overlay"
          args := [.text (Placement.logo config.logoPosition).x,
            .text (Placement.logo config.logoPosition).y] } ] := by
  have on : config.toRaw.showLogo.isOn = true := shown
  have given : video.pads.logo = some (videoPad video.logoIndex) := by
    unfold VideoInputs.pads
    rw [made.logo, logoInput, if_pos on]
    rfl
  have placed : anchorOr .topRight config.toRaw.logoPosition = config.logoPosition :=
    anchorOr_label _ _
  rw [drawing.logo, wired, given, Picture.logoSteps, wired_videoPad]
  dsimp only
  rw [if_pos on, placed]
  rfl

end Features

theorem verbatim_ofParts {entries : List (String × Value)} {config : Config}
    (read : ReadFrom entries config) {settings : Settings} {video : VideoInputs}
    {audio : Audio.Plan} {clock : Clock.Reading} {fonts : Fonts} {host after : Host}
    {graph : FilterGraph} {gain : Option String} (made : video.MadeFrom config.toRaw settings)
    (sounds : soundOf config.toRaw = .ok audio)
    (built : Picture.graph config.toRaw (sceneOf config.toRaw video audio clock) fonts host =
      (.ok graph, after)) (gained : Audio.gainOf config.toRaw.audioLevelDb = .ok gain)
    (device : String) :
    Verbatim config settings clock fonts
      (ofParts settings (Format.ofValue config.toRaw.videoFormat) video audio graph gain device)
      (Format.ofValue config.toRaw.videoFormat) (effectiveBackground config.toRaw) audio := by
  have formed := read.wellFormed
  have drawing := Picture.drawing_graph built
  have sound := madeFrom_soundOf sounds
  have full := read.channel_lists
  simp only [List.forall_mem_cons] at full
  rcases full with ⟨_, idCycle, flash, force400, _⟩
  have flashIs : audio.flash = config.audioChannelFlash :=
    sound.flash.trans (flags_flagList flash false)
  constructor
  case parts =>
      refine ⟨video, made.background, ?_⟩
      rw [← Except.ok.inj (gained.symm.trans read.gainOf)]
      rfl
  case format_found => exact Format.ofId?_of_mem formed.video_format
  case rate => exact drawing.rate
  case background_found => exact formed.usedBackground
  case scale => exact drawing.scale
  case frequency => exact read.frequencyOf sound.frequency
  case channel_map =>
      have mapped := activeMap_flagList read.channel_map_spec.1 read.channel_map_spec.2 (.int 2)
      exact Except.ok.inj (sound.channel_map.symm.trans mapped)
  case id_cycle => exact sound.id_cycle.trans (flags_flagList idCycle false)
  case flash => exact flashIs
  case force400 => exact sound.force400.trans (flags_flagList force400 false)
  case text_lines => exact text_verbatim read drawing
  case logo_placed => exact logo_verbatim made rfl drawing
  case clock_lines => exact clock_verbatim formed drawing
  case status_lines => exact status_verbatim formed drawing
  case flash_boxes =>
      intro asked
      apply flash_verbatim formed drawing
      change audio.flash.any id = true
      rw [flashIs, List.any_eq_true]
      exact ⟨true, asked, rfl⟩

/--
Every checked configuration is compiled as it is, and a preview shows the configuration that
it has compiled.
-/
theorem verbatim_of_ofValue {data : Value} {config : Config}
    (checked : Config.ofValue data = .ok config) :
    (∀ settings clock fonts devices host command found after,
      compile config.toRaw settings clock fonts devices host = (.ok (command, found), after) →
        ∃ format background audio,
          soundOf config.toRaw = .ok audio ∧
          command.Verbatim config settings clock fonts format background audio) ∧
      ∀ station host response next after,
        Api.preview station data host = (.ok (response, next), after) →
          ∃ command format background audio,
            response = .ofValue (.object
              (("success", .bool true) :: Api.commandEntries command config)) ∧
            command.Verbatim config station.settings station.timebase.reading station.fonts
              format background audio := by
  have read := ofValue_ok.mp checked
  constructor
  · intro settings clock fonts devices host command found after compiled
    rcases compile_ok.mp compiled with
      ⟨video, audio, graph, drawn, gain, device, made, sounds, built, gained, _, rfl⟩
    exact ⟨_, _, audio, sounds, verbatim_ofParts read made sounds built gained device⟩
  · intro station host response next after shown
    rcases HostRun.bind_ok.mp shown with ⟨again, _, rechecked, compiling⟩
    rcases HostRun.ofExcept_ok.mp rechecked with ⟨same, rfl⟩
    cases Except.ok.inj (checked.symm.trans same)
    rcases HostRun.bind_ok.mp compiling with ⟨⟨command, further⟩, between, onStation, answered⟩
    rcases Station.compileRaw_ok.mp onStation with ⟨devices, compiled, rfl⟩
    cases (HostRun.pure_ok.mp answered).1
    rcases compile_ok.mp compiled with
      ⟨video, audio, graph, drawn, gain, device, parts, sounds, built, gained, _, rfl⟩
    exact ⟨_, _, _, audio, rfl, verbatim_ofParts read parts sounds built gained device⟩

/-- A status block at its largest, and a flash. -/
def limitingData : Value :=
  .object [
    ("audioChannelFlash", .list [.bool true]),
    ("showConfigOverlay", .bool true),
    ("configOverlayFontSize", .int 160) ]

theorem verbatim_of_ofValue_showcase :
    ∃ config, Config.ofValue limitingData = .ok config ∧
      ∃ command found after,
        compile config.toRaw showcaseSettings Picture.showcaseClock
          (Fonts.standard "/mono.ttf") {} Host.idle = (.ok (command, found), after) ∧
        ∃ format background audio,
          command.Verbatim config showcaseSettings Picture.showcaseClock
            (Fonts.standard "/mono.ttf") format background audio := by
  have finishes : (Config.ofValue limitingData).toOption.any (fun config =>
      (compile config.toRaw showcaseSettings Picture.showcaseClock
        (Fonts.standard "/mono.ttf") {} Host.idle).1.isOk) = true := by decide +kernel
  rcases any_ok.mp finishes with ⟨config, checked, finishes⟩
  rcases HostRun.exists_ok finishes with ⟨⟨command, found⟩, after, compiled⟩
  rcases (verbatim_of_ofValue checked).1 _ _ _ _ _ _ _ _ compiled with
    ⟨format, background, audio, _, verbatim⟩
  exact ⟨config, checked, command, found, after, compiled, format, background, audio, verbatim⟩

end Command

end TestSignal
