import TestSignal.Proofs.Catalog
import TestSignal.Proofs.Overlay.Lines
import TestSignal.Proofs.Picture.Kinds
import TestSignal.Proofs.Picture.Printed

namespace TestSignal

/-!
# The stages of a picture in order

A picture is planned from its configuration and its scene: which stages there are, in which
order, which filters each has and which text it draws.  The plan mentions neither steps nor
chains.  Every graph that is built has exactly the stages of the plan, and each is labelled
by its kind and its place, except the last, which has the label of the finished picture.

The plan takes the lines of the user's text, of the clock and of the status block as they are.
It asks which lines of the text are drawn, and how many stages an animation has.
-/

/-! ## What a stage shows -/

/-- What some filters are to a viewer: their names, and the texts that they draw. -/
structure Contents where
  names : List String
  texts : List OptionValue := []

namespace Contents

def ofFilters (filters : List Filter) : Contents where
  names := filters.map Filter.name
  texts := filters.filterMap fun filter => filter.option? "text"

/-- A filter that draws one text. -/
def drawn (text : OptionValue) : Contents := { names := ["drawtext"], texts := [text] }

end Contents

namespace Picture

open Outcome

/-! ## The plan -/

/-- A stage as it is planned. -/
structure Part where
  kind : String
  contents : Contents

/-- A stage for each line of the user's text that is not blank. -/
def textParts (text : Value) (lines : List String) : List Part :=
  if text.isOn then
    (lines.filter Text.hasInk).map fun line => ⟨"txt", .drawn (.literal line)⟩
  else []

/-- The stages of an animation that is wired: the square is one, the staircase with its pulse
is three. -/
def animationParts (animation : Value) (pad : Option String) : List Part :=
  match animation.string?, wired pad with
  | some "square", some _ => [⟨"anim", { names := ["overlay"] }⟩]
  | some "staircase_pulse", some _ =>
      [⟨"anim", { names := ["format", "geq"] }⟩, ⟨"anim", { names := ["drawbox"] }⟩,
        ⟨"anim", { names := ["overlay"] }⟩]
  | _, _ => []

/-- A box and a label for each of the two cues. -/
def flashParts : List Part :=
  [⟨"flash", { names := ["drawbox"] }⟩, ⟨"flash", .drawn (.literal "1KHz")⟩,
    ⟨"flash", { names := ["drawbox"] }⟩, ⟨"flash", .drawn (.literal "400Hz")⟩]

/-- The stage after the preroll shift, which only an interlaced format has. -/
def interlacePart : Part :=
  ⟨"interlace", { names := ["fps", "setsar", "tinterlace", "setfield"] }⟩

/-- All stages of a picture, when the text, the clock and the status block have these lines. -/
def plan (config : RawConfig) (scene : Scene) (textLines clockLines statusLines : List String) :
    List Part :=
  [⟨"fps", { names := ["fps"] }⟩] ++
    (if scene.background.isNative then [] else [⟨"base", { names := ["scale"] }⟩]) ++
    textParts config.text textLines ++
    animationParts config.animation scene.inputs.animation ++
    (if config.showLogo.isOn ∧ (wired scene.inputs.logo).isSome then
      [⟨"logo", { names := ["overlay"] }⟩] else []) ++
    (if config.showClock.isOn then
      clockLines.map (fun line => ⟨"clock", .drawn (.template line)⟩) else []) ++
    (if config.showConfigOverlay.isOn then
      statusLines.map (fun line => ⟨"overlay", .drawn (.literal line)⟩) else []) ++
    (if true ∈ scene.audio.flash then flashParts else []) ++
    [⟨"preroll", { names := ["setpts"] }⟩] ++
    (if scene.format.interlaced then [interlacePart] else [])

/-- The labels of planned stages: kind and place, and the last is the finished picture. -/
def labels (parts : List Part) : List String :=
  parts.zipIdx.map fun (part, place) =>
    if place + 1 = parts.length then "v" else part.kind ++ toString place

/-! ## Steps as parts -/

/-- The part of the plan that a step makes. -/
def Step.part (step : Step) : Part := ⟨step.kind, .ofFilters step.filters⟩

/-- Steps that draw each of some filters, when the contents of each filter are known. -/
theorem map_part_onLine (kind : String) {filters : List Filter} {texts : List OptionValue}
    (drawn : filters.map (fun filter => Contents.ofFilters [filter]) = texts.map Contents.drawn) :
    (filters.map fun filter => Step.onLine kind [filter]).map Step.part =
      texts.map fun text => ⟨kind, .drawn text⟩ := by
  rw [List.map_map]
  calc filters.map (Step.part ∘ fun filter => Step.onLine kind [filter])
      = (filters.map fun filter => Contents.ofFilters [filter]).map (Part.mk kind) := by
        rw [List.map_map]
        rfl
    _ = texts.map fun text => ⟨kind, .drawn text⟩ := by
        rw [drawn, List.map_map]
        rfl

theorem map_part_scaleSteps (format : Format) (background : Background) :
    (scaleSteps format background).map Step.part =
      if background.isNative then [] else [⟨"base", { names := ["scale"] }⟩] := by
  unfold scaleSteps
  split <;> rfl

theorem contents_textFilters {text : String} {style : Overlay.TextStyle} {anchor : Anchor}
    {filters : List Filter} (made : Overlay.textFilters text style anchor = .ok filters) :
    filters.map (fun filter => Contents.ofFilters [filter]) =
      (((Overlay.textLines text).filter Text.hasInk).map OptionValue.literal).map
        Contents.drawn := by
  rw [← Overlay.map_fst_inkedLines, List.map_map, List.map_map]
  refine map_of_mapM_ok (fun line _ filter drawn => ?_) made
  rcases bind_ok.mp drawn with ⟨border, _, drawn⟩
  rcases bind_ok.mp drawn with ⟨box, _, drawn⟩
  rcases bind_ok.mp drawn with ⟨y, _, drawn⟩
  rw [← pure_ok.mp drawn]
  rfl

theorem map_part_textSteps {config : RawConfig} {fonts : Fonts} {host after : Host}
    {steps : List Step} (made : textSteps config fonts host = (.ok steps, after))
    {lines : List String} (cut : Overlay.LinesOf config.text.asText lines) :
    steps.map Step.part = textParts config.text lines := by
  unfold textSteps at made
  unfold textParts
  rw [Overlay.linesOf_iff.mp cut]
  cases on : config.text.isOn with
  | false =>
      rw [on, Bool.not_false, if_pos rfl] at made
      rw [← (HostRun.pure_ok.mp made).1]
      rfl
  | true =>
      rw [on, Bool.not_true, if_neg Bool.false_ne_true] at made
      rcases HostRun.bind_ok.mp made with ⟨font, between, _, rest⟩
      rcases bind_ok.mp (HostRun.ofExcept_ok.mp rest).1 with ⟨size, _, rest⟩
      rcases bind_ok.mp rest with ⟨filters, drawn, rest⟩
      rw [← pure_ok.mp rest, if_pos rfl, map_part_onLine "txt" (contents_textFilters drawn),
        List.map_map]
      rfl

theorem animationParts_of_unwired (animation : Value) {pad : Option String}
    (unwired : wired pad = none) : animationParts animation pad = [] := by
  unfold animationParts
  rw [unwired]
  split
  · contradiction
  · contradiction
  · rfl

theorem animationParts_of_unknown {id : String} (unknown : Animation.ofId? id = none)
    (pad : Option String) : animationParts (.string id) pad = [] := by
  have other (animation : Animation) : animation.id ≠ id := by
    rintro rfl
    rw [Animation.ofId?_id] at unknown
    cases unknown
  unfold animationParts
  split
  · rename_i named _
    exact absurd (Option.some.inj named).symm (other .square)
  · rename_i named _
    exact absurd (Option.some.inj named).symm (other .staircasePulse)
  · rfl

theorem map_part_squareSteps {format : Format} {pad : String} {steps : List Step}
    (made : squareSteps format pad = .ok steps) :
    steps.map Step.part = [⟨"anim", { names := ["overlay"] }⟩] := by
  rcases bind_ok.mp made with ⟨path, _, made⟩
  rw [← pure_ok.mp made]
  rfl

theorem map_part_staircasePulseSteps {format : Format} {pad : String} {steps : List Step}
    (made : staircasePulseSteps format pad = .ok steps) :
    steps.map Step.part =
      [⟨"anim", { names := ["format", "geq"] }⟩, ⟨"anim", { names := ["drawbox"] }⟩,
        ⟨"anim", { names := ["overlay"] }⟩] := by
  rcases bind_ok.mp made with ⟨width, _, made⟩
  rcases bind_ok.mp made with ⟨rounded, _, made⟩
  rcases bind_ok.mp made with ⟨pulse, _, made⟩
  rw [← pure_ok.mp made]
  rfl

/-- An animation that is wired and known has its stages; any other has none. -/
theorem map_part_animationSteps {animation : Value} {format : Format} {pad : Option String}
    {steps : List Step} (made : animationSteps animation format pad = .ok steps) :
    steps.map Step.part = animationParts animation pad := by
  unfold animationSteps at made
  cases animation with
  | string id =>
      cases label : wired pad with
      | none =>
          simp only [label] at made
          rw [← Except.ok.inj made, animationParts_of_unwired _ label]
          rfl
      | some wiredPad =>
          cases known : Animation.ofId? id with
          | none =>
              simp only [label, known] at made
              rw [← Except.ok.inj made, animationParts_of_unknown known]
              rfl
          | some animation =>
              simp only [label, known] at made
              rw [← Animation.id_of_ofId? known]
              unfold animationParts
              rw [label]
              cases animation with
              | square => exact map_part_squareSteps made
              | staircasePulse => exact map_part_staircasePulseSteps made
  | null | bool _ | number _ | list _ | object _ =>
      rw [← Except.ok.inj made]
      rfl

theorem map_part_logoSteps (config : RawConfig) (pad : Option String) :
    (logoSteps config pad).map Step.part =
      if config.showLogo.isOn ∧ (wired pad).isSome then
        [⟨"logo", { names := ["overlay"] }⟩] else [] := by
  unfold logoSteps
  cases wired pad with
  | none => rw [if_neg (by rintro ⟨_, impossible⟩; cases impossible)]; rfl
  | some label =>
      cases config.showLogo.isOn <;> rfl

theorem contents_clockFilters {timing : Clock.Timing} {format : Format} {anchor : Anchor}
    {font : Font} {filters : List Filter}
    (made : Clock.filters timing format anchor font = .ok filters) :
    filters.map (fun filter => Contents.ofFilters [filter]) =
      (timing.lines.map OptionValue.template).map Contents.drawn := by
  rcases bind_ok.mp made with ⟨sizes, _, made⟩
  rw [← List.zipIdx_map_fst 0 timing.lines, List.map_map, List.map_map]
  refine map_of_mapM_ok (fun line _ filter drawn => ?_) made
  rcases bind_ok.mp drawn with ⟨y, _, drawn⟩
  rw [← pure_ok.mp drawn]
  rfl

/-- The clock that is shown has three lines. -/
theorem map_part_clockSteps {config : RawConfig} {scene : Scene} {fonts : Fonts}
    {steps : List Step} (made : clockSteps config scene fonts = .ok steps) :
    ∃ lines : List String, lines.length = 3 ∧
      (config.showClock.isOn = true → ∃ timing,
        Clock.Timing.ofReading scene.clock (.number scene.format.fps) config.clockLatencyMs =
            .ok timing ∧ lines = timing.lines) ∧
      steps.map Step.part =
        if config.showClock.isOn then
          lines.map (fun line => ⟨"clock", .drawn (.template line)⟩) else [] := by
  unfold clockSteps at made
  cases on : config.showClock.isOn with
  | false =>
      rw [on, Bool.not_false, if_pos rfl] at made
      rw [← pure_ok.mp made]
      exact ⟨["", "", ""], rfl, nofun, rfl⟩
  | true =>
      rw [on, Bool.not_true, if_neg Bool.false_ne_true] at made
      rcases bind_ok.mp made with ⟨timing, timed, made⟩
      rcases bind_ok.mp made with ⟨filters, drawn, made⟩
      refine ⟨timing.lines, rfl, fun _ => ⟨timing, timed, rfl⟩, ?_⟩
      rw [← pure_ok.mp made, if_pos rfl, map_part_onLine "clock" (contents_clockFilters drawn),
        List.map_map]
      rfl

theorem contents_statusFilters {lines : List String} {format : Format} {size : Value}
    {anchor : Anchor} {font : Font} {filters : List Filter}
    (made : Overlay.statusFilters lines format size anchor font = .ok filters) :
    filters.map (fun filter => Contents.ofFilters [filter]) =
      (lines.map OptionValue.literal).map Contents.drawn := by
  unfold Overlay.statusFilters at made
  split at made
  · rename_i empty
    rw [← pure_ok.mp made, List.isEmpty_iff.mp empty]
    rfl
  · rcases bind_ok.mp made with ⟨layout, _, made⟩
    rw [← pure_ok.mp made, List.map_map]
    conv => rhs; rw [← List.zipIdx_map_fst 0 lines, List.map_map, List.map_map]
    rfl

theorem map_part_statusSteps {config : RawConfig} {scene : Scene} {fonts : Fonts}
    {steps : List Step} (made : statusSteps config scene fonts = .ok steps) :
    ∃ lines : List String,
      (config.showConfigOverlay.isOn = true →
        Overlay.statusLines scene.format.id scene.audio config.audioLevelDb = .ok lines) ∧
      steps.map Step.part =
        if config.showConfigOverlay.isOn then
          lines.map (fun line => ⟨"overlay", .drawn (.literal line)⟩) else [] := by
  unfold statusSteps at made
  cases on : config.showConfigOverlay.isOn with
  | false =>
      rw [on, Bool.not_false, if_pos rfl] at made
      rw [← pure_ok.mp made]
      exact ⟨[], nofun, rfl⟩
  | true =>
      rw [on, Bool.not_true, if_neg Bool.false_ne_true] at made
      rcases bind_ok.mp made with ⟨lines, told, made⟩
      rcases bind_ok.mp made with ⟨filters, drawn, made⟩
      refine ⟨lines, fun _ => told, ?_⟩
      rw [← pure_ok.mp made, if_pos rfl,
        map_part_onLine "overlay" (contents_statusFilters drawn), List.map_map]
      rfl

theorem map_part_flashSteps {config : RawConfig} {scene : Scene} {fonts : Fonts}
    {steps : List Step} (made : flashSteps config scene fonts = .ok steps) :
    steps.map Step.part = if true ∈ scene.audio.flash then flashParts else [] := by
  have asked : scene.audio.anyFlash = decide (true ∈ scene.audio.flash) := by
    unfold Audio.Plan.anyFlash
    rw [Bool.eq_iff_iff]
    simp
  unfold flashSteps at made
  rw [asked] at made
  by_cases flashes : true ∈ scene.audio.flash
  · rw [decide_eq_true flashes, Bool.not_true, if_neg Bool.false_ne_true] at made
    rw [if_pos flashes]
    rcases bind_ok.mp made with ⟨filters, cued, made⟩
    rcases bind_ok.mp cued with ⟨cues, cycle, cued⟩
    rcases bind_ok.mp cued with ⟨size, _, cued⟩
    rcases bind_ok.mp cued with ⟨top, _, cued⟩
    rcases bind_ok.mp cycle with ⟨frames, _, cycle⟩
    rw [← pure_ok.mp made, ← pure_ok.mp cued, ← pure_ok.mp cycle]
    rfl
  · rw [decide_eq_false flashes, Bool.not_false, if_pos rfl] at made
    rw [if_neg flashes, ← pure_ok.mp made]
    rfl

/-! ## The whole graph -/

theorem labelsFrom_eq (start : Nat) (steps : List Step) :
    labelsFrom start steps =
      ((steps.map Step.part).zipIdx start).map fun (part, place) =>
        part.kind ++ toString place := by
  induction steps generalizing start with
  | nil => rfl
  | cons step rest ih =>
      rw [labelsFrom, ih, List.map_cons, List.zipIdx_cons, List.map_cons]
      rfl

/-- The stages before the last are labelled by kind and place. -/
theorem labels_append_singleton (front : List Part) (last : Part) :
    labels (front ++ [last]) =
      (front.zipIdx.map fun (part, place) => part.kind ++ toString place) ++ ["v"] := by
  unfold labels
  rw [List.zipIdx_append, List.map_append]
  refine congrArg₂ (· ++ ·) (List.map_congr_left ?_) ?_
  · rintro ⟨part, place⟩ member
    have bound : place < front.length := List.snd_lt_of_mem_zipIdx member
    exact if_neg (by rw [List.length_append, List.length_singleton]; omega)
  · rw [List.zipIdx_singleton, List.map_singleton, List.length_append, List.length_singleton]
    exact congrArg (· :: []) (if_pos (by omega))

/-- A graph with exactly the stages of a plan: in order, with these labels and contents. -/
structure Follows (graph : FilterGraph) (parts : List Part) : Prop where
  labelled : graph.stages.map Stage.outputLabel? = (labels parts).map some
  filled : graph.stages.map (fun stage => Contents.ofFilters stage.filters) =
    parts.map Part.contents

/-- A graph that is closed over some steps follows their parts and the part that closes it. -/
theorem follows_closed (source : String) (steps : List Step) {filters : List Filter} {last : Part}
    (ending : last.contents = .ofFilters filters) :
    Follows (closed (Chain.ofSteps source steps) filters) (steps.map Step.part ++ [last]) where
  labelled := by
    change ((Chain.ofSteps source steps).graph.stages ++ [_]).map Stage.outputLabel? = _
    rw [List.map_append, map_outputLabel?_ofSteps, labels_append_singleton, labelsFrom_eq,
      List.map_append]
    rfl
  filled := by
    have filtered : (Chain.ofSteps source steps).graph.stages.map Stage.filters =
        steps.map Step.filters := map_filters_foldl steps (Chain.start source)
    change ((Chain.ofSteps source steps).graph.stages ++ [_]).map
      (Contents.ofFilters ∘ Stage.filters) = _
    rw [← List.map_map, List.map_append, filtered, List.map_append, List.map_append, List.map_map,
      List.map_map, List.map_singleton, List.map_singleton, ending, List.map_map]
    rfl

/--
Every graph that is built follows the plan of its configuration and scene: the rate; the scale
of a background that needs it; a stage for each line of the text that is not blank; the
animation, the logo, the clock's three lines, the status block and the flash, each if it is
wanted and wired; the preroll shift; and the end of an interlaced picture.
-/
theorem follows_plan {config : RawConfig} {scene : Scene} {fonts : Fonts} {host after : Host}
    {graph : FilterGraph}
    (built : Picture.graph config scene fonts host = (.ok graph, after)) :
    ∃ textLines clockLines statusLines : List String,
      Overlay.LinesOf config.text.asText textLines ∧ clockLines.length = 3 ∧
      (config.showClock.isOn = true → ∃ timing,
        Clock.Timing.ofReading scene.clock (.number scene.format.fps) config.clockLatencyMs =
            .ok timing ∧ clockLines = timing.lines) ∧
      (config.showConfigOverlay.isOn = true →
        Overlay.statusLines scene.format.id scene.audio config.audioLevelDb =
          .ok statusLines) ∧
      Follows graph (plan config scene textLines clockLines statusLines) := by
  rcases HostRun.bind_ok.mp built with ⟨all, between, listed, finished⟩
  rw [← (HostRun.pure_ok.mp finished).1]
  rcases steps_ok listed with ⟨text, animation, clock, status, flash, textMade, animated,
    clockMade, statusMade, flashMade, rfl⟩
  rcases map_part_clockSteps clockMade with ⟨clockLines, three, timed, clockParts⟩
  rcases map_part_statusSteps statusMade with ⟨statusLines, told, statusParts⟩
  let textLines := Overlay.textLines config.text.asText
  have cut : Overlay.LinesOf config.text.asText textLines := Overlay.linesOf_iff.mpr rfl
  refine ⟨textLines, clockLines, statusLines, cut, three, timed, told, ?_⟩
  let front := [rateStep scene.format] ++ scaleSteps scene.format scene.background ++ text ++
    animation ++ logoSteps config scene.inputs.logo ++ clock ++ status ++ flash
  have planned : plan config scene textLines clockLines statusLines =
      (front ++ [prerollStep]).map Step.part ++
        (if scene.format.interlaced then [interlacePart] else []) := by
    simp only [front, List.map_append, map_part_scaleSteps, map_part_textSteps textMade cut,
      map_part_animationSteps animated, map_part_logoSteps, clockParts, statusParts,
      map_part_flashSteps flashMade]
    rfl
  rw [planned]
  -- An interlaced picture gets a stage of its own at the end; in a progressive one the shift
  -- is the last.
  cases scene.format.interlaced with
  | true =>
      rw [terminate_interlaced]
      exact follows_closed _ _ rfl
  | false =>
      have ended := terminate_progressive scene.inputs.base front "preroll" prerollStep.filters
        scene.format.fps
      rw [if_neg Bool.false_ne_true, List.append_nil, List.map_append]
      exact ended ▸ follows_closed _ front rfl

theorem follows_plan_showcase :
    ∃ audio graph after clockLines statusLines, showcaseSound = .ok audio ∧
      Picture.graph showcaseConfig (showcaseScene audio) (Fonts.standard "/mono.ttf") Host.idle =
        (.ok graph, after) ∧
      Overlay.LinesOf showcaseConfig.text.asText ["ON AIR", "STUDIO"] ∧ clockLines.length = 3 ∧
      Follows graph (plan showcaseConfig (showcaseScene audio) ["ON AIR", "STUDIO"] clockLines
        statusLines) := by
  have finishes : showcaseSound.toOption.any (fun audio =>
      (Picture.graph showcaseConfig (showcaseScene audio) (Fonts.standard "/mono.ttf")
        Host.idle).1.isOk) = true := by decide +kernel
  rcases any_ok.mp finishes with ⟨audio, made, finishes⟩
  rcases HostRun.exists_ok finishes with ⟨graph, after, built⟩
  rcases follows_plan built with ⟨textLines, clockLines, statusLines, cut, three, _, _, follows⟩
  have lines : textLines = ["ON AIR", "STUDIO"] := (Overlay.linesOf_iff.mp cut).trans (by decide)
  rw [lines] at cut follows
  exact ⟨audio, graph, after, clockLines, statusLines, made, built, cut, three, follows⟩

/-- A scaled background, two lines of text with a blank one between them, and the stairs, under
all overlays. -/
example : showcaseSound.toOption.any (fun audio =>
    labels (plan showcaseConfig (showcaseScene audio) ["ON AIR", " ", "STUDIO"] ["", "", ""]
      ["", "", "", "", ""]) =
      ["fps0", "base1", "txt2", "txt3", "anim4", "anim5", "anim6", "logo7", "clock8", "clock9",
        "clock10", "overlay11", "overlay12", "overlay13", "overlay14", "overlay15", "flash16",
        "flash17", "flash18", "flash19", "preroll20", "v"]) = true := by decide +kernel

end Picture

end TestSignal
