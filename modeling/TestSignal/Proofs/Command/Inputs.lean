import TestSignal.Proofs.Command.Compile
import TestSignal.Proofs.Command.Options
import TestSignal.Proofs.Picture.FilePads

namespace TestSignal

namespace Command

/-!
# Inputs are numbered alike in the arguments and in the graph

The assembly of the arguments and the graph decide separately which optional inputs
there are, the one from the inputs it lists and the other from the configuration.
Here the two decisions are compared.  An animation has an input exactly when its
stages are asked for, and so has a logo, so every video input has a pad that the graph
reads and every pad of the graph has an input.

The configuration may be a raw one, and the settings, the clock, the devices, the
fonts and the host are arbitrary.
-/

/-! ## Pads of video inputs -/

theorem toList_videoPad (index : Nat) :
    (videoPad index).toList = Nat.toDigits 10 index ++ [':', 'v'] := by
  rw [videoPad, String.toList_append, Nat.toString_eq_repr, Nat.toList_repr]
  rfl

theorem isFilePad_videoPad (index : Nat) : Picture.isFilePad (videoPad index) = true := by
  have digits : ∀ c ∈ Nat.toDigits 10 index, c.isDigit = true := by
    intro c member
    exact Nat.isDigit_of_mem_toDigits (by decide) (by decide) member
  unfold Picture.isFilePad
  rw [toList_videoPad, List.takeWhile_append_of_pos digits, List.dropWhile_append_of_pos digits,
    List.takeWhile_cons_of_neg (by decide), List.dropWhile_cons_of_neg (by decide),
    List.append_nil, Bool.and_eq_true, beq_self_eq_true]
  refine ⟨?_, rfl⟩
  rw [Bool.not_eq_true', List.isEmpty_eq_false_iff]
  exact Nat.toDigits_ne_nil

theorem wired_videoPad (index : Nat) :
    Picture.wired (some (videoPad index)) = some (videoPad index) := by
  have nonempty : (videoPad index).isEmpty = false := by
    rw [Bool.eq_false_iff]
    intro empty
    have file := isFilePad_videoPad index
    rw [String.isEmpty_iff.mp empty] at file
    exact absurd file (by decide)
  rw [Picture.wired, Option.filter_some, nonempty]
  rfl

/-! ## The two decisions -/

/-- An animation has an input exactly when the picture's features have its stages. -/
theorem isSome_animationInput {animation : Value} {format : Format} {input : Option Input}
    (made : animationInput animation format = .ok input) :
    input.isSome = Picture.choosesAnimation animation := by
  unfold animationInput at made
  unfold Picture.choosesAnimation
  cases animation with
  | string id =>
      cases kind : Animation.ofId? id with
      | none =>
          simp only [kind] at made ⊢
          rw [← Outcome.pure_ok.mp made]
          rfl
      | some animation =>
          cases animation with
          | square =>
              simp only [kind] at made ⊢
              rcases Outcome.bind_ok.mp made with ⟨size, _, rest⟩
              rw [← Outcome.pure_ok.mp rest]
              rfl
          | staircasePulse =>
              simp only [kind] at made ⊢
              rw [← Outcome.pure_ok.mp made]
              rfl
  | null | bool _ | number _ | list _ | object _ =>
      rw [← Outcome.pure_ok.mp made]
      rfl

theorem isSome_logoInput (config : RawConfig) (settings : Settings) :
    (logoInput config settings).isSome = config.showLogo.isOn := by
  unfold logoInput
  split
  case isTrue shown => exact shown.symm
  case isFalse hidden => exact (Bool.eq_false_iff.mpr hidden).symm

namespace VideoInputs.MadeFrom

variable {video : VideoInputs} {config : RawConfig} {settings : Settings}

theorem animationPads (made : video.MadeFrom config settings) :
    Picture.animationPads config video.pads = video.animation.toList.map fun _ => videoPad 1 := by
  unfold Picture.animationPads VideoInputs.pads
  rw [← isSome_animationInput made.animation]
  cases video.animation with
  | none => rfl
  | some input =>
      rw [Option.isSome_some, if_pos rfl, Option.map_some, wired_videoPad]
      rfl

theorem logoPads (made : video.MadeFrom config settings) :
    Picture.logoPads config video.pads =
      video.logo.toList.map fun _ => videoPad video.logoIndex := by
  unfold Picture.logoPads VideoInputs.pads
  rw [← isSome_logoInput config settings, ← made.logo]
  cases video.logo with
  | none => rfl
  | some input =>
      rw [Option.isSome_some, if_pos rfl, Option.map_some, wired_videoPad]
      rfl

/-- The pads that the picture takes are those of all video inputs, in their order. -/
theorem selectedPads (made : video.MadeFrom config settings) :
    Picture.selectedPads config video.pads = (List.range video.all.length).map videoPad := by
  unfold Picture.selectedPads
  rw [made.animationPads, made.logoPads]
  unfold VideoInputs.pads VideoInputs.logoIndex VideoInputs.all
  cases video.animation with
  | none => cases video.logo <;> rfl
  | some _ => cases video.logo <;> rfl

theorem whole (made : video.MadeFrom config settings) (audio : Audio.Plan) :
    ∀ input ∈ video.all ++ [Input.generated audio.source], input.Whole := by
  intro input member
  rcases List.mem_append.mp member with inVideo | isAudio
  · rcases List.mem_cons.mp inVideo with isBackground | optional
    · rw [isBackground, made.background]
      exact whole_backgroundInput _ _ _ _
    · rcases List.mem_append.mp optional with inAnimation | inLogo
      · have present := Option.mem_toList.mp inAnimation
        exact whole_animationInput (made.animation.trans (congrArg Except.ok present))
      · have present := Option.mem_toList.mp inLogo
        exact whole_logoInput (made.logo.symm.trans present)
  · rw [List.mem_singleton.mp isAudio]
    exact Input.whole_generated audio.source

end VideoInputs.MadeFrom

/-! ## Agreement -/

/--
The stages of a kind read the pad of an input, and the group of that number is the
input.  Without the input they read no file.
-/
def ReadsInput (command : Command) (kind : String) (index : Nat) (input : Option Input) : Prop :=
  match input with
  | some input =>
      command.inputGroups[index]? = some input.options ∧
        command.graph.filesRead kind = [videoPad index]
  | none => command.graph.filesRead kind = []

/-- The inputs of a command, its graph and its mapped streams agree on their numbers. -/
structure NumbersInputsAlike (command : Command) (video : VideoInputs) (audio : Audio.Plan) :
    Prop where
  /-- The audio input follows the video inputs, and there is no other. -/
  groups : command.inputGroups = (video.all ++ [Input.generated audio.source]).map Input.options
  audio_index : command.audioIndex = video.all.length
  audio_source : "aevalsrc=".toList <+: audio.source.toList
  /-- Each video input is read by the graph exactly once, and no other file is. -/
  file_pads : (command.graph.padsRead.filter Picture.isFilePad).Perm
    ((List.range command.audioIndex).map videoPad)
  /-- Every other pad is the output of a stage. -/
  other_pads : ∀ pad ∈ command.graph.padsRead, Picture.isFilePad pad = false →
    pad ∈ command.graph.outputs
  background : command.ReadsInput "fps" 0 (some video.background)
  animation : command.ReadsInput "anim" 1 video.animation
  logo : command.ReadsInput "logo" video.logoIndex video.logo
  graph : command.valuesOf "-filter_complex" = [command.graph.render]
  mapped : command.valuesOf "-map" = ["[v]", toString command.audioIndex ++ ":a"]

/-! ## The arguments -/

/-- The arguments of a command over whole inputs are read back as its parts. -/
theorem readOptions_command {inputs : List Input} (whole : ∀ input ∈ inputs, input.Whole)
    (program : String) (graph : FilterGraph) {format : Format} (known : format ∈ Format.all)
    (audio : Audio.Plan) (audioIndex : Nat) (gain : Option String) (device : String) :
    readOptions ([program] ++ inputs.flatMap Input.args ++ ["-filter_complex", graph.render] ++
        outputArgs format audio audioIndex gain device).tail =
      inputs.flatMap Input.options ++ outputOptions graph format audio audioIndex gain := by
  rw [← readOptions_output graph known audio audioIndex gain device, ← readOptions_inputs whole,
    List.append_assoc, List.append_assoc]
  rfl

section Output

variable (graph : FilterGraph) {format : Format} (known : format ∈ Format.all)
  (audio : Audio.Plan) (audioIndex : Nat) (gain : Option String)

include known

theorem groupsFrom_output : groupsFrom [] (outputOptions graph format audio audioIndex gain) = [] := by
  apply groupsFrom_eq_nil
  have card := card_options_apart known "-i" (by decide)
  unfold outputOptions
  simp [card]

/-- The graph, the streams and the filters of the sound have options of their own. -/
theorem valuesIn_output {name : String} (named : name ∈ ["-filter_complex", "-map", "-af"]) :
    valuesIn (outputOptions graph format audio audioIndex gain) name =
      valuesIn [("-filter_complex", graph.render), ("-map", "[v]"),
        ("-map", toString audioIndex ++ ":a"), ("-af", audioFilters gain)] name := by
  have card := valuesIn_eq_nil (card_options_apart known name (List.mem_cons_of_mem _ named))
  unfold outputOptions
  rw [valuesIn_append, valuesIn_append, card]
  simp only [List.mem_cons, List.not_mem_nil, or_false] at named
  rcases named with rfl | rfl | rfl <;> simp [valuesIn]

end Output

/-! ## Compiled commands -/

namespace VideoInputs.MadeFrom

variable {config : RawConfig} {settings : Settings} {video : VideoInputs}
  (made : video.MadeFrom config settings) {format : Format} (known : format ∈ Format.all)
  (audio : Audio.Plan) (graph : FilterGraph) (gain : Option String) (device : String)

include made known

/-- The options of a command are those of its inputs and then those of its output. -/
theorem options_ofParts :
    (ofParts settings format video audio graph gain device).options =
      (video.all ++ [Input.generated audio.source]).flatMap Input.options ++
        outputOptions graph format audio video.all.length gain :=
  readOptions_command (made.whole audio) settings.ffmpegPath graph known audio video.all.length gain
    device

/-- The graph, the streams and the filters of the sound are found among the options. -/
theorem valuesOf_ofParts {name : String} (named : name ∈ ["-filter_complex", "-map", "-af"]) :
    (ofParts settings format video audio graph gain device).valuesOf name =
      valuesIn [("-filter_complex", graph.render), ("-map", "[v]"),
        ("-map", toString video.all.length ++ ":a"), ("-af", audioFilters gain)] name := by
  have apart : ∀ name ∈ ["-filter_complex", "-map", "-af"],
      name ≠ "-i" ∧ name ∉ inputModifiers := by decide
  have inputs := valuesIn_inputs (made.whole audio) (apart name named).1 (apart name named).2
  unfold valuesOf
  rw [made.options_ofParts known, valuesIn_append, inputs, List.nil_append,
    valuesIn_output graph known audio video.all.length gain named]

end VideoInputs.MadeFrom

theorem prefix_source (audio : Audio.Plan) : "aevalsrc=".toList <+: audio.source.toList := by
  unfold Audio.Plan.source
  simp only [String.toList_append, List.append_assoc]
  have opening : "aevalsrc=exprs=".toList = "aevalsrc=".toList ++ "exprs=".toList := by decide
  rw [opening, List.append_assoc]
  exact List.prefix_append _ _

/-- The group of an input's number is the input, and the graph reads its pad. -/
theorem readsInput_of {command : Command} {inputs : List Input}
    (groups : command.inputGroups = inputs.map Input.options) {kind : String} {index : Nat}
    {input : Option Input} (placed : ∀ present ∈ input, inputs[index]? = some present)
    (read : command.graph.filesRead kind = input.toList.map fun _ => videoPad index) :
    command.ReadsInput kind index input := by
  cases input with
  | none => exact read
  | some present =>
      refine ⟨?_, read⟩
      rw [groups, List.getElem?_map, placed present rfl]
      rfl

theorem VideoInputs.getElem?_logoIndex (video : VideoInputs) (more : List Input) {input : Input}
    (shown : video.logo = some input) :
    (video.all ++ more)[video.logoIndex]? = some input := by
  unfold VideoInputs.all VideoInputs.logoIndex
  rw [shown]
  cases video.animation <;> rfl

theorem VideoInputs.getElem?_animation (video : VideoInputs) (more : List Input) {input : Input}
    (moves : video.animation = some input) : (video.all ++ more)[1]? = some input := by
  unfold VideoInputs.all
  rw [moves]
  rfl

/-- Commands over the inputs of a configuration, with a graph drawn from its scene. -/
structure Drawn (config : RawConfig) (settings : Settings) (video : VideoInputs)
    (audio : Audio.Plan) (graph : FilterGraph) : Prop where
  made : video.MadeFrom config settings
  built : ∃ clock fonts host after,
    Picture.graph config (sceneOf config video audio clock) fonts host = (.ok graph, after)

namespace Drawn

variable {config : RawConfig} {settings : Settings} {video : VideoInputs} {audio : Audio.Plan}
  {graph : FilterGraph}

theorem files (drawn : Drawn config settings video audio graph) :
    ∀ pad ∈ Picture.selectedPads config video.pads, Picture.isFilePad pad = true := by
  intro pad member
  rw [drawn.made.selectedPads] at member
  rcases List.mem_map.mp member with ⟨index, _, rfl⟩
  exact isFilePad_videoPad index

theorem file_pads (drawn : Drawn config settings video audio graph) :
    (graph.padsRead.filter Picture.isFilePad).Perm
      ((List.range video.all.length).map videoPad) := by
  rcases drawn.built with ⟨clock, fonts, host, after, built⟩
  rw [← drawn.made.selectedPads]
  exact Picture.filePads_graph built drawn.files

theorem other_pads (drawn : Drawn config settings video audio graph) {pad : String}
    (member : pad ∈ graph.padsRead) (other : Picture.isFilePad pad = false) :
    pad ∈ graph.outputs := by
  rcases drawn.built with ⟨clock, fonts, host, after, built⟩
  exact Picture.mem_outputs_graph built drawn.files member other

/-- The stages that take inputs read the pads of these inputs. -/
theorem filesRead (drawn : Drawn config settings video audio graph) :
    graph.filesRead "fps" = [videoPad 0] ∧
      graph.filesRead "anim" = (video.animation.toList.map fun _ => videoPad 1) ∧
      graph.filesRead "logo" = (video.logo.toList.map fun _ => videoPad video.logoIndex) := by
  rcases drawn.built with ⟨clock, fonts, host, after, built⟩
  have kept : ∀ (input : Option Input) (index : Nat),
      (input.toList.map fun _ => videoPad index).filter Picture.isFilePad =
        input.toList.map fun _ => videoPad index := by
    intro input index
    cases input with
    | none => rfl
    | some _ => exact List.filter_cons_of_pos (isFilePad_videoPad index)
  rcases Picture.filesRead_graph built (isFilePad_videoPad 0) with ⟨base, animation, logo⟩
  refine ⟨base, ?_, ?_⟩
  · rw [animation]
    change (Picture.animationPads config video.pads).filter _ = _
    rw [drawn.made.animationPads, kept]
  · rw [logo]
    change (Picture.logoPads config video.pads).filter _ = _
    rw [drawn.made.logoPads, kept]

/-- A command over drawn inputs numbers them alike everywhere. -/
theorem numbersInputsAlike (drawn : Drawn config settings video audio graph)
    {format : Format} (known : format ∈ Format.all) (gain : Option String) (device : String) :
    (ofParts settings format video audio graph gain device).NumbersInputsAlike video audio := by
  have whole := drawn.made.whole audio
  have options := drawn.made.options_ofParts known audio graph gain device
  have groups : (ofParts settings format video audio graph gain device).inputGroups =
      (video.all ++ [Input.generated audio.source]).map Input.options := by
    unfold inputGroups
    rw [options, groupsFrom_inputs whole, groupsFrom_output _ known, List.append_nil]
  rcases drawn.filesRead with ⟨base, animation, logo⟩
  constructor
  case groups => exact groups
  case audio_index => rfl
  case audio_source => exact prefix_source audio
  case file_pads => exact drawn.file_pads
  case other_pads => exact fun pad => drawn.other_pads
  case background =>
      have read : graph.filesRead "fps" =
          (some video.background).toList.map fun _ => videoPad 0 := base
      have placed : ∀ present ∈ some video.background,
          (video.all ++ [Input.generated audio.source])[0]? = some present :=
        fun _ same => same
      exact readsInput_of groups placed read
  case animation =>
      exact readsInput_of groups (fun present => video.getElem?_animation _) animation
  case logo => exact readsInput_of groups (fun present => video.getElem?_logoIndex _) logo
  case graph => exact drawn.made.valuesOf_ofParts known audio graph gain device (by decide)
  case mapped => exact drawn.made.valuesOf_ofParts known audio graph gain device (by decide)

end Drawn

/--
The inputs of every compiled command are numbered alike in its arguments, in its graph
and in its mapped streams.
-/
theorem numbersInputsAlike_compile {config : RawConfig} {settings : Settings}
    {clock : Clock.Reading} {fonts : Fonts} {devices found : Device.Cache} {host after : Host}
    {command : Command}
    (compiled : compile config settings clock fonts devices host =
      (.ok (command, found), after)) :
    ∃ video audio, video.MadeFrom config settings ∧ soundOf config = .ok audio ∧
      command.NumbersInputsAlike video audio := by
  rcases compile_ok.mp compiled with
    ⟨video, audio, graph, drawn, gain, device, made, sounds, built, _, _, rfl⟩
  have parts : Drawn config settings video audio graph :=
    { made, built := ⟨clock, fonts, host, drawn, built⟩ }
  refine ⟨video, audio, made, sounds, ?_⟩
  exact parts.numbersInputsAlike (Format.ofValue_mem_all config.videoFormat) gain device

/-- An installation whose pictures and uploads stand below one directory. -/
def showcaseSettings : Settings where
  picturesDir := Path.ofText "/srv/pictures"
  uploadsDir := Path.ofText "/srv/uploads"

theorem numbersInputsAlike_showcase :
    ∃ command found after,
      compile Picture.showcaseConfig showcaseSettings Picture.showcaseClock
        (Fonts.standard "/mono.ttf") {} Host.idle = (.ok (command, found), after) ∧
      ∃ video audio, video.MadeFrom Picture.showcaseConfig showcaseSettings ∧
        command.NumbersInputsAlike video audio := by
  have finishes : (compile Picture.showcaseConfig showcaseSettings Picture.showcaseClock
      (Fonts.standard "/mono.ttf") {} Host.idle).1.isOk = true := by decide +kernel
  rcases HostRun.exists_ok finishes with ⟨⟨command, found⟩, after, compiled⟩
  refine ⟨command, found, after, compiled, ?_⟩
  rcases numbersInputsAlike_compile compiled with ⟨video, audio, made, _, alike⟩
  exact ⟨video, audio, made, alike⟩

end Command

end TestSignal
