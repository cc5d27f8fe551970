import TestSignal.Proofs.Command.Inputs
import TestSignal.Proofs.Config.WellFormed
import TestSignal.Proofs.Picture.Features

namespace TestSignal

open Outcome OptionValue

namespace Picture

/-!
# Printed pictures can be read back

The graph of a picture is legible, so its text has one reading: its own stages, filters and
options.  Pads are legible because each of them is an input file's or the label of a stage,
and a label is a word with a number.  Filters are legible feature by feature.

The text of a user, the names of zones, the source of the time and the path of the font may
hold the marks of a graph's text.  Only a backslash in the path of the font is ruled out.
-/

/-! ## Pads -/

theorem avoids_of_isFilePad {pad : String} (file : isFilePad pad = true) : Avoids padMarks pad := by
  have parts := Bool.and_eq_true_iff.mp file
  have passes : ∀ c ∈ pad.toList, (c.isDigit || [':', 'v'].contains c) = true := by
    intro c member
    rw [← List.takeWhile_append_dropWhile (p := Char.isDigit) (l := pad.toList),
      eq_of_beq parts.2] at member
    rw [Bool.or_eq_true]
    rcases List.mem_append.mp member with inNumber | inSuffix
    · exact Or.inl (List.mem_takeWhile_imp inNumber)
    · exact Or.inr (List.contains_iff_mem.mpr inSuffix)
  exact .ofTest (by decide) passes

theorem avoids_stageLabel {kind : String} (word : isWord kind = true) (index : Nat) :
    Avoids padMarks (stageLabel kind index) := by
  have letters : Avoids padMarks kind := .ofTest (by decide) (List.all_eq_true.mp word)
  have number : Avoids padMarks (toString index) := by
    refine (avoids_of_isNumeral ?_).weaken (by decide)
    rw [Nat.toString_eq_repr, Nat.toList_repr]
    exact IsNumeral.toDigits index
  exact letters.append number

section Built

variable {config : RawConfig} {scene : Scene} {fonts : Fonts} {host after : Host}
  {graph : FilterGraph}

theorem avoids_of_mem_outputs (built : Picture.graph config scene fonts host = (.ok graph, after)) :
    ∀ label ∈ graph.outputs, Avoids padMarks label := by
  rcases graph_eq_closed built with ⟨steps, filters, assembled, rfl⟩
  have words := assembled.isWord_kind
  rw [outputs_closed, outputs_ofSteps]
  intro label member
  rcases List.mem_append.mp member with fromStep | last
  · rcases eq_stageLabel_of_mem fromStep with ⟨step, inSteps, index, _, rfl⟩
    exact avoids_stageLabel (words step inSteps) index
  · rw [List.mem_singleton.mp last]
    exact .literal rfl

/-- A pad that is read is an input file's, or the output of a stage. -/
theorem avoids_of_mem_padsRead
    (built : Picture.graph config scene fonts host = (.ok graph, after))
    (files : ∀ pad ∈ selectedPads config scene.inputs, isFilePad pad = true) :
    ∀ pad ∈ graph.padsRead, Avoids padMarks pad := by
  intro pad member
  cases file : isFilePad pad with
  | true => exact avoids_of_isFilePad file
  | false => exact avoids_of_mem_outputs built pad (mem_outputs_graph built files member file)

end Built

/-! ## The filters of a step -/

/-- At least one filter, and legible ones only. -/
def LegibleFilters (filters : List Filter) : Prop :=
  filters ≠ [] ∧ ∀ filter ∈ filters, filter.Legible

theorem LegibleFilters.single {filter : Filter} (legible : filter.Legible) :
    LegibleFilters [filter] :=
  ⟨List.cons_ne_nil filter [], List.forall_mem_singleton.mpr legible⟩

def LegibleSteps (steps : List Step) : Prop := ∀ step ∈ steps, LegibleFilters step.filters

namespace LegibleSteps

theorem nil : LegibleSteps [] := nofun

theorem cons {step : Step} {rest : List Step} (first : LegibleFilters step.filters)
    (others : LegibleSteps rest) : LegibleSteps (step :: rest) :=
  List.forall_mem_cons.mpr ⟨first, others⟩

theorem single {step : Step} (legible : LegibleFilters step.filters) : LegibleSteps [step] :=
  .cons legible .nil

theorem append {steps more : List Step} (first : LegibleSteps steps) (second : LegibleSteps more) :
    LegibleSteps (steps ++ more) :=
  List.forall_mem_append.mpr ⟨first, second⟩

theorem drawn {filters : List Filter} (kind : String)
    (each : ∀ filter ∈ filters, filter.Legible) :
    LegibleSteps (filters.map fun filter => .onLine kind [filter]) := by
  intro step member
  rcases List.mem_map.mp member with ⟨filter, isFilter, rfl⟩
  exact .single (each filter isFilter)

end LegibleSteps

/-! ## Each feature -/

theorem legible_rateStep (format : Format) : LegibleFilters (rateStep format).filters :=
  .single (.ofValue rfl (legible_number format.fps))

theorem legible_scaleSteps (format : Format) (background : Background) :
    LegibleSteps (scaleSteps format background) := by
  unfold scaleSteps
  split
  · exact .nil
  · refine .single (.single (.of rfl (List.forall_mem_cons.mpr ⟨legible_int format.width, ?_⟩) .nil))
    exact List.forall_mem_singleton.mpr (legible_int format.height)

theorem legible_textSteps {config : RawConfig} {fonts : Fonts} (legible : fonts.Legible)
    (color : (OptionValue.plain config.textColor).Legible) {host after : Host}
    {steps : List Step} (made : textSteps config fonts host = (.ok steps, after)) :
    LegibleSteps steps := by
  unfold textSteps at made
  split at made
  · rw [← (HostRun.pure_ok.mp made).1]
    exact .nil
  · rcases HostRun.bind_ok.mp made with ⟨font, between, resolved, rest⟩
    rcases bind_ok.mp (HostRun.ofExcept_ok.mp rest).1 with ⟨size, _, rest⟩
    rcases bind_ok.mp rest with ⟨filters, drawn, rest⟩
    rw [← pure_ok.mp rest]
    exact .drawn "txt" (Overlay.legible_textFilters ⟨legible.resolve resolved, color⟩ drawn)

theorem legible_squareSteps {format : Format} {pad : String} {steps : List Step}
    (made : squareSteps format pad = .ok steps) : LegibleSteps steps := by
  rcases bind_ok.mp made with ⟨path, placed, rest⟩
  rcases bind_ok.mp placed with ⟨size, _, placed⟩
  rcases bind_ok.mp placed with ⟨x, across, placed⟩
  rcases bind_ok.mp placed with ⟨y, down, placed⟩
  rw [← pure_ok.mp rest, ← pure_ok.mp placed]
  exact .single (.single (.of rfl nofun
    (.cons rfl (legible_expr (unescaped_bounce across))
      (.cons rfl (legible_expr (unescaped_bounce down)) .nil))))

theorem legible_staircasePulseSteps {format : Format} {pad : String} {steps : List Step}
    (made : staircasePulseSteps format pad = .ok steps) : LegibleSteps steps := by
  rcases bind_ok.mp made with ⟨share, _, rest⟩
  rcases bind_ok.mp rest with ⟨width, _, rest⟩
  rcases bind_ok.mp rest with ⟨pulse, moved, rest⟩
  have luma := legible_lumaText format.height
  have opacity : (OptionValue.quoted (opacityExpr format.height).text).Legible :=
    legible_expr ⟨⟨unescaped_stairExpr format.height, trivial⟩, trivial, trivial⟩
  have canvas : Filter.Legible { name := "format", args := [.text "rgba"] } :=
    .ofValue rfl (legible_text (.literal rfl))
  have stairs : Filter.Legible
      { name := "geq"
        params :=
          [("r", .quoted (lumaText format.height)), ("g", .quoted (lumaText format.height)),
            ("b", .quoted (lumaText format.height)),
            ("a", .quoted (opacityExpr format.height).text)] } :=
    .of rfl nofun (.cons rfl luma (.cons rfl luma (.cons rfl luma (.cons rfl opacity .nil))))
  have box : Filter.Legible
      { name := "drawbox"
        params :=
          [("x", .quoted pulse.text), ("y", .int 0), ("w", .int (max 4 width)),
            ("h", .int format.height), ("color", .text "white@0.75"), ("t", .text "fill")] } :=
    .of rfl nofun
      (.cons rfl (legible_expr (unescaped_pulseX moved)) (.cons rfl (legible_int 0)
        (.cons rfl (legible_int (max 4 width)) (.cons rfl (legible_int format.height)
          (.cons rfl (legible_text (.literal rfl))
            (.cons rfl (legible_text (.literal rfl)) .nil))))))
  have laid : Filter.Legible
      { name := "overlay", args := [.int 0, .int 0], params := [("shortest", .int 1)] } :=
    .of rfl (List.forall_mem_cons.mpr ⟨legible_int 0, List.forall_mem_singleton.mpr (legible_int 0)⟩)
      (.cons rfl (legible_int 1) .nil)
  rw [← pure_ok.mp rest]
  refine .cons ⟨List.cons_ne_nil _ _, ?_⟩ (.cons (.single box) (.single (.single laid)))
  exact List.forall_mem_cons.mpr ⟨canvas, List.forall_mem_singleton.mpr stairs⟩

theorem legible_animationSteps {animation : Value} {format : Format} {pad : Option String}
    {steps : List Step} (made : animationSteps animation format pad = .ok steps) :
    LegibleSteps steps := by
  unfold animationSteps at made
  split at made
  · split at made
    · exact legible_squareSteps made
    · exact legible_staircasePulseSteps made
    · rw [← Except.ok.inj made]
      exact .nil
  · rw [← Except.ok.inj made]
    exact .nil

theorem legible_logoSteps (config : RawConfig) (pad : Option String) :
    LegibleSteps (logoSteps config pad) := by
  have place := Placement.avoids_logo (Config.anchorOr .topRight config.logoPosition)
  unfold logoSteps
  split
  · split
    · refine .single (.single (.of rfl (List.forall_mem_cons.mpr ⟨legible_text place.1, ?_⟩) .nil))
      exact List.forall_mem_singleton.mpr (legible_text place.2)
    · exact .nil
  · exact .nil

theorem legible_clockSteps {config : RawConfig} {scene : Scene} {fonts : Fonts}
    (legible : fonts.Legible) {steps : List Step}
    (made : clockSteps config scene fonts = .ok steps) : LegibleSteps steps := by
  unfold clockSteps at made
  split at made
  · rw [← pure_ok.mp made]
    exact .nil
  · rcases bind_ok.mp made with ⟨timing, _, rest⟩
    rcases bind_ok.mp rest with ⟨filters, drawn, rest⟩
    rw [← pure_ok.mp rest]
    exact .drawn "clock" (Clock.legible_filters legible.default drawn)

theorem legible_statusSteps {config : RawConfig} {scene : Scene} {fonts : Fonts}
    (legible : fonts.Legible) {steps : List Step}
    (made : statusSteps config scene fonts = .ok steps) : LegibleSteps steps := by
  unfold statusSteps at made
  split at made
  · rw [← pure_ok.mp made]
    exact .nil
  · rcases bind_ok.mp made with ⟨lines, _, rest⟩
    rcases bind_ok.mp rest with ⟨filters, drawn, rest⟩
    rw [← pure_ok.mp rest]
    exact .drawn "overlay" (Overlay.legible_statusFilters legible.default drawn)

theorem legible_flashSteps {config : RawConfig} {scene : Scene} {fonts : Fonts}
    (legible : fonts.Legible) {steps : List Step}
    (made : flashSteps config scene fonts = .ok steps) : LegibleSteps steps := by
  unfold flashSteps at made
  split at made
  · rw [← pure_ok.mp made]
    exact .nil
  · rcases bind_ok.mp made with ⟨filters, drawn, rest⟩
    rw [← pure_ok.mp rest]
    exact .drawn "flash" (Overlay.legible_flashFilters legible.default drawn)

theorem legible_prerollStep : LegibleFilters prerollStep.filters :=
  .single (.ofValue rfl (legible_text (.literal rfl)))

theorem legible_steps {config : RawConfig} {scene : Scene} {fonts : Fonts}
    (legible : fonts.Legible) (color : (OptionValue.plain config.textColor).Legible)
    {host after : Host} {all : List Step}
    (listed : steps config scene fonts host = (.ok all, after)) : LegibleSteps all := by
  rcases steps_ok listed with ⟨text, animation, clock, status, flash, textMade, animated,
    clockMade, statusMade, flashMade, rfl⟩
  have front := (LegibleSteps.single (legible_rateStep scene.format)).append
    (legible_scaleSteps scene.format scene.background)
  have pictures := ((front.append (legible_textSteps legible color textMade)).append
    (legible_animationSteps animated)).append (legible_logoSteps config scene.inputs.logo)
  have overlays := ((pictures.append (legible_clockSteps legible clockMade)).append
    (legible_statusSteps legible statusMade)).append (legible_flashSteps legible flashMade)
  exact overlays.append (.single legible_prerollStep)

/-! ## The filters of a graph -/

theorem map_filters_foldl (steps : List Step) (chain : Chain) :
    (steps.foldl Chain.extend chain).graph.stages.map Stage.filters =
      chain.graph.stages.map Stage.filters ++ steps.map Step.filters := by
  induction steps generalizing chain with
  | nil => exact (List.append_nil _).symm
  | cons step rest inductionHypothesis =>
      have extended : (chain.extend step).graph.stages.map Stage.filters =
          chain.graph.stages.map Stage.filters ++ [step.filters] := List.map_append
      rw [List.foldl_cons, inductionHypothesis, extended, List.append_assoc]
      rfl

theorem map_filters_renameLast (label : String) (stages : List Stage) :
    (FilterGraph.renameLast label stages).map Stage.filters = stages.map Stage.filters := by
  rcases List.eq_nil_or_concat stages with rfl | ⟨front, last, rfl⟩
  · rfl
  · rw [List.concat_eq_append, renameLast_append_singleton, List.map_append, List.map_append]
    rfl

theorem legible_interlaceFilters (fps : Number) : LegibleFilters (Chain.interlaceFilters fps) := by
  have rate : Filter.Legible { name := "fps", args := [.number fps] } :=
    .ofValue rfl (legible_number fps)
  have shape : Filter.Legible { name := "setsar", args := [.text "1/1"] } :=
    .ofValue rfl (legible_text (.literal rfl))
  have fields : Filter.Legible
      { name := "tinterlace", params := [("mode", .text "interleave_top")] } :=
    .of rfl nofun (.cons rfl (legible_text (.literal rfl)) .nil)
  have order : Filter.Legible { name := "setfield", args := [.text "tff"] } :=
    .ofValue rfl (legible_text (.literal rfl))
  refine ⟨List.cons_ne_nil _ _, List.forall_mem_cons.mpr ⟨rate, ?_⟩⟩
  exact List.forall_mem_cons.mpr
    ⟨shape, List.forall_mem_cons.mpr ⟨fields, List.forall_mem_singleton.mpr order⟩⟩

/-- The end of a line brings legible filters of its own, or none. -/
theorem legible_terminate {chain : Chain} (fps : Number) (interlaced : Bool)
    (legible : ∀ filters ∈ chain.graph.stages.map Stage.filters, LegibleFilters filters) :
    ∀ filters ∈ (chain.terminate fps interlaced).graph.stages.map Stage.filters,
      LegibleFilters filters := by
  have added : ∀ {last : Stage}, LegibleFilters last.filters →
      ∀ filters ∈ (chain.graph.add last).stages.map Stage.filters, LegibleFilters filters := by
    intro last legibleLast filters member
    change filters ∈ (chain.graph.stages ++ [last]).map Stage.filters at member
    rw [List.map_append] at member
    rcases List.mem_append.mp member with before | ending
    · exact legible filters before
    · rw [List.mem_singleton.mp ending]
      exact legibleLast
  unfold Chain.terminate
  dsimp only
  split
  · exact added (legible_interlaceFilters fps)
  · split
    case isTrue => exact added (.single (.of rfl nofun .nil))
    case isFalse some =>
        -- The last stage gets another label and keeps its filters.
        rw [get_relabelled some, map_filters_renameLast]
        exact legible

/-! ## The whole graph -/

section Built

variable {config : RawConfig} {scene : Scene} {fonts : Fonts} {host after : Host}
  {graph : FilterGraph}

theorem legible_filters (legible : fonts.Legible)
    (color : (OptionValue.plain config.textColor).Legible)
    (built : Picture.graph config scene fonts host = (.ok graph, after)) :
    ∀ filters ∈ graph.stages.map Stage.filters, LegibleFilters filters := by
  rcases HostRun.bind_ok.mp built with ⟨all, between, listed, finished⟩
  rw [← (HostRun.pure_ok.mp finished).1]
  apply legible_terminate
  unfold Chain.ofSteps
  rw [map_filters_foldl]
  intro filters member
  rcases List.mem_map.mp member with ⟨step, inSteps, rfl⟩
  exact legible_steps legible color listed step inSteps

/-- The graph of a picture is legible when its fonts and its colour are. -/
theorem legible_graph (legible : fonts.Legible)
    (color : (OptionValue.plain config.textColor).Legible)
    (files : ∀ pad ∈ selectedPads config scene.inputs, isFilePad pad = true)
    (built : Picture.graph config scene fonts host = (.ok graph, after)) : graph.Legible where
  nonempty := by
    rcases graph_eq_closed built with ⟨steps, filters, _, rfl⟩
    exact List.append_ne_nil_of_right_ne_nil _ (List.cons_ne_nil _ _)
  stages := by
    intro stage member
    have filters := legible_filters legible color built stage.filters (List.mem_map_of_mem member)
    exact {
      inputs := fun pad isInput => avoids_of_mem_padsRead built files pad
        (List.mem_flatMap.mpr ⟨stage, member, isInput⟩)
      nonempty := filters.1
      filters := filters.2
      output := fun label isOutput => avoids_of_mem_outputs built label
        (List.mem_filterMap.mpr ⟨stage, member, isOutput⟩) }

end Built

/-- The colour of a checked configuration can stand without quotes. -/
theorem legible_textColor {data : Value} {config : Config}
    (checked : Config.ofValue data = .ok config) :
    (OptionValue.plain config.toRaw.textColor).Legible := by
  have plain := (Config.ofValue_ok.mp checked).wellFormed.text_color_plain
  have passes : ∀ c ∈ config.textColor.toList, (!Color.isReserved c) = true := by
    intro c member
    rw [plain c member]
    rfl
  exact Avoids.ofTest (by decide) passes

theorem legible_fonts {settings : Settings} (plain : '\x5c' ∉ settings.fontPath.toList) :
    (Fonts.standard settings.fontPath).Legible := by
  refine Fonts.legible_standard fun c member marked => plain ?_
  rw [← List.mem_singleton.mp marked]
  exact member

/--
The text of a graph has one reading, whatever the user's text, the source of the time, the
names of the zone and the existing font files are: cut at its free marks it gives the stages
of the graph with their pads, their filters and their options, in order.
-/
theorem graph?_render {data : Value} {config : Config} (checked : Config.ofValue data = .ok config)
    {settings : Settings} (plain : '\x5c' ∉ settings.fontPath.toList) {scene : Scene}
    (files : ∀ pad ∈ selectedPads config.toRaw scene.inputs, isFilePad pad = true)
    {host after : Host} {graph : FilterGraph}
    (built : Picture.graph config.toRaw scene (Fonts.standard settings.fontPath) host =
      (.ok graph, after)) :
    GraphText.graph? .escaping graph.render = some (graph.stages.map Stage.outline) :=
  (legible_graph (legible_fonts plain) (legible_textColor checked) files built).read

/-- A text that closes quotes and writes stages, and an animation whose path has commas. -/
def markedData : Value :=
  .object [
    ("text", .string "it's 5:30', negate [x];[x] null\\ \\n' %"),
    ("textColor", .string "#FFCC00@0.5"),
    ("fontFamily", .string "impact"),
    ("animation", .string "square"),
    ("showClock", .bool true),
    ("showConfigOverlay", .bool true) ]

/-- A source and a zone with marks in their names. -/
def markedScene (audio : Audio.Plan) : Scene :=
  { showcaseScene audio with
    clock :=
      ({ epochMs := 0, source := "pool;[v]'\\"
         zone := { offsetMicros := 3600000000, shortName := some "',;", key := some "A'\\:B" } } :
        Clock.Timebase).reading }

theorem graph?_render_showcase :
    ∃ audio config graph after, showcaseSound = .ok audio ∧
      Config.ofValue markedData = .ok config ∧
      Picture.graph config.toRaw (markedScene audio)
        (Fonts.standard "/fonts/it's [v];mono.ttf") Host.idle = (.ok graph, after) ∧
      GraphText.graph? .escaping graph.render = some (graph.stages.map Stage.outline) := by
  have finishes : showcaseSound.toOption.any (fun audio =>
      (Config.ofValue markedData).toOption.any fun config =>
        (selectedPads config.toRaw (markedScene audio).inputs).all isFilePad &&
          (Picture.graph config.toRaw (markedScene audio)
            (Fonts.standard "/fonts/it's [v];mono.ttf") Host.idle).1.isOk) = true := by
    decide +kernel
  rcases any_ok.mp finishes with ⟨audio, made, finishes⟩
  rcases any_ok.mp finishes with ⟨config, checked, finishes⟩
  rcases Bool.and_eq_true_iff.mp finishes with ⟨files, finishes⟩
  rcases HostRun.exists_ok finishes with ⟨graph, after, built⟩
  let settings : Settings :=
    { picturesDir := Path.ofText "/srv/pictures", uploadsDir := Path.ofText "/srv/uploads"
      fontPath := "/fonts/it's [v];mono.ttf" }
  have plain : '\x5c' ∉ settings.fontPath.toList := by decide
  exact ⟨audio, config, graph, after, made, checked, built,
    graph?_render checked plain (List.all_eq_true.mp files) built⟩

end Picture

namespace Command

/-- The engine is given one graph, and its text has one reading. -/
theorem read_graphOption {data : Value} {config : Config}
    (checked : Config.ofValue data = .ok config) {settings : Settings}
    (plain : '\x5c' ∉ settings.fontPath.toList) {clock : Clock.Reading}
    {devices found : Device.Cache} {host after : Host} {command : Command}
    (compiled : compile config.toRaw settings clock (Fonts.standard settings.fontPath) devices
      host = (.ok (command, found), after)) :
    (command.valuesOf "-filter_complex").map (GraphText.graph? .escaping) =
      [some (command.graph.stages.map Stage.outline)] := by
  rcases compile_ok.mp compiled with
    ⟨video, audio, graph, drawn, gain, device, made, _, built, _, _, rfl⟩
  have parts : Drawn config.toRaw settings video audio graph :=
    { made, built := ⟨clock, _, host, drawn, built⟩ }
  have alike := parts.numbersInputsAlike (Format.ofValue_mem_all config.toRaw.videoFormat) gain device
  have legible := Picture.legible_graph (Picture.legible_fonts plain)
    (Picture.legible_textColor checked) parts.files built
  rw [alike.graph, List.map_singleton]
  exact congrArg List.singleton legible.read

end Command

end TestSignal
