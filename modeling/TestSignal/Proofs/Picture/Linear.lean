import TestSignal.Proofs.Picture.Assembly

namespace TestSignal

namespace Picture

/-!
# The graph of the picture is wired linearly

The graph is closed in one of two ways: an interlaced format gets a stage of its own
at the end, and otherwise the last stage of the line is relabelled.  In both cases the
graph is a chain of the features' steps with one stage that ends it, so the account of
pads that the steps keep is an account of the whole graph.

The wired pads are assumed to be distinct pads of files.  Nothing else is assumed:
the configuration may be a raw one, and the format, the background, the sound, the
clock and the fonts are arbitrary.
-/

/-! ## Features in order -/

/-- Steps that are made of features, each with its kind and its pads, in order. -/
inductive Assembled : List (String × List String) → List Step → Prop where
  | nil : Assembled [] []
  | cons {kind pads steps rest more} : Feature kind pads steps → Assembled rest more →
      Assembled ((kind, pads) :: rest) (steps ++ more)

namespace Assembled

variable {features : List (String × List String)} {steps : List Step}

theorem threaded (assembled : Assembled features steps) : Threaded false steps := by
  induction assembled with
  | nil => exact .done
  | cons feature _ ih => exact feature.threaded.append ih

theorem own_pads (assembled : Assembled features steps) :
    steps.flatMap Step.ownPads = features.flatMap Prod.snd := by
  induction assembled with
  | nil => rfl
  | cons feature _ ih =>
      rw [List.flatMap_append, feature.own_pads, ih, List.flatMap_cons]

theorem kind_mem (assembled : Assembled features steps) {step : Step}
    (member : step ∈ steps) : step.kind ∈ features.map Prod.fst := by
  induction assembled with
  | nil => exact absurd member List.not_mem_nil
  | cons feature _ ih =>
      rw [List.map_cons, List.mem_cons]
      rcases List.mem_append.mp member with here | later
      · exact Or.inl (feature.kinds step here)
      · exact Or.inr (ih later)

/-- Steps made of features keep the account of a source, with all the features' pads taken. -/
theorem balanced (assembled : Assembled features steps) (source : String) :
    (Chain.ofSteps source steps).Balanced (source :: features.flatMap Prod.snd) false := by
  rw [← assembled.own_pads]
  exact assembled.threaded.balanced (balanced_start source)

end Assembled

/-- The features of a picture in their order, between the rate and the preroll shift. -/
def features (config : RawConfig) (inputs : Inputs) : List (String × List String) :=
  [("base", []), ("txt", []), ("anim", animationPads config inputs),
    ("logo", logoPads config inputs), ("clock", []), ("overlay", []), ("flash", [])]

/--
The features whose stages stand between the first one, which sets the rate, and the
one that ends the graph.  The preroll shift is among them only when an interlaced
format has an end of its own.
-/
def innerFeatures (config : RawConfig) (scene : Scene) : List (String × List String) :=
  features config scene.inputs ++ if scene.format.interlaced then [("preroll", [])] else []

theorem flatMap_innerFeatures (config : RawConfig) (scene : Scene) :
    scene.inputs.base :: (innerFeatures config scene).flatMap Prod.snd =
      selectedPads config scene.inputs := by
  unfold innerFeatures features selectedPads
  cases scene.format.interlaced <;>
    simp only [Bool.false_eq_true, if_false, if_true, List.cons_append, List.nil_append,
      List.flatMap_cons, List.flatMap_nil, List.append_nil]

theorem isWord_of_mem_innerFeatures {config : RawConfig} {scene : Scene} {kind : String}
    (member : kind ∈ (innerFeatures config scene).map Prod.fst) : isWord kind = true := by
  have words : ∀ kind ∈ ["base", "txt", "anim", "logo", "clock", "overlay", "flash", "preroll"],
      isWord kind = true := by decide
  apply words
  unfold innerFeatures features at member
  cases interlaced : scene.format.interlaced with
  | true =>
      rw [interlaced, if_pos rfl] at member
      exact member
  | false =>
      rw [interlaced, if_neg Bool.false_ne_true, List.append_nil] at member
      exact List.mem_append_left ["preroll"] member

/-! ## The two ends -/

theorem renameLast_append_singleton (label : String) (front : List Stage) (last : Stage) :
    FilterGraph.renameLast label (front ++ [last]) =
      front ++ [{ last with output := some label }] := by
  induction front with
  | nil => rfl
  | cons stage rest ih =>
      cases rest with
      | nil => rfl
      | cons next more =>
          rw [List.cons_append, List.cons_append, FilterGraph.renameLast, ← List.cons_append, ih]
          · rfl
          · intro impossible
            exact absurd impossible (by simp)

theorem get_relabelled {graph : FilterGraph} (some : ¬graph.stages.isEmpty = true) :
    (graph.renameLastOutput Chain.outputPad).toOption.get (Chain.isSome_relabelled some) =
      { stages := FilterGraph.renameLast Chain.outputPad graph.stages } := by
  simp only [FilterGraph.renameLastOutput_of_nonempty some]
  rfl

/-- The last step on the line becomes the end of a progressive picture. -/
theorem terminate_progressive (source : String) (steps : List Step) (kind : String)
    (filters : List Filter) (fps : Number) :
    ((Chain.ofSteps source (steps ++ [.onLine kind filters])).terminate fps false).graph =
      closed (Chain.ofSteps source steps) filters := by
  have last : Chain.ofSteps source (steps ++ [.onLine kind filters]) =
      (Chain.ofSteps source steps).extend (.onLine kind filters) := by
    rw [Chain.ofSteps, List.foldl_append]
    rfl
  rw [last]
  have nonempty : ¬((Chain.ofSteps source steps).extend
      (.onLine kind filters)).graph.stages.isEmpty = true := by
    rw [List.isEmpty_iff]
    exact List.append_ne_nil_of_right_ne_nil _ (List.cons_ne_nil _ _)
  unfold Chain.terminate
  dsimp only
  rw [if_neg Bool.false_ne_true, dif_neg nonempty, get_relabelled nonempty, Chain.extend,
    FilterGraph.add, renameLast_append_singleton]
  rfl

theorem terminate_interlaced (source : String) (steps : List Step) (fps : Number) :
    ((Chain.ofSteps source steps).terminate fps true).graph =
      closed (Chain.ofSteps source steps) (Chain.interlaceFilters fps) := rfl

/-! ## The whole graph -/

/-- The steps of a picture are those of its features, each made in its turn. -/
theorem steps_ok {config : RawConfig} {scene : Scene} {fonts : Fonts} {host after : Host}
    {all : List Step} (listed : steps config scene fonts host = (.ok all, after)) :
    ∃ text animation clock status flash,
      textSteps config fonts host = (.ok text, after) ∧
      animationSteps config.animation scene.format scene.inputs.animation = .ok animation ∧
      clockSteps config scene fonts = .ok clock ∧
      statusSteps config scene fonts = .ok status ∧
      flashSteps config scene fonts = .ok flash ∧
      all = [rateStep scene.format] ++ scaleSteps scene.format scene.background ++ text ++
        animation ++ logoSteps config scene.inputs.logo ++ clock ++ status ++ flash ++
        [prerollStep] := by
  rcases HostRun.bind_ok.mp listed with ⟨text, drawn, textMade, others⟩
  rcases HostRun.ofExcept_ok.mp others with ⟨made, rfl⟩
  rcases Outcome.bind_ok.mp made with ⟨animation, animated, rest⟩
  rcases Outcome.bind_ok.mp rest with ⟨clock, clockMade, rest⟩
  rcases Outcome.bind_ok.mp rest with ⟨status, statusMade, rest⟩
  rcases Outcome.bind_ok.mp rest with ⟨flash, flashMade, rest⟩
  exact ⟨text, animation, clock, status, flash, textMade, animated, clockMade, statusMade,
    flashMade, (Outcome.pure_ok.mp rest).symm⟩

/--
A graph is made of the stage that sets the rate, the stages of the picture's features,
and one stage that ends the line.
-/
theorem graph_eq_closed {config : RawConfig} {scene : Scene} {fonts : Fonts}
    {host after : Host} {graph : FilterGraph}
    (built : Picture.graph config scene fonts host = (.ok graph, after)) :
    ∃ steps filters, Assembled (innerFeatures config scene) steps ∧
      graph =
        closed (Chain.ofSteps scene.inputs.base (rateStep scene.format :: steps)) filters := by
  rcases HostRun.bind_ok.mp built with ⟨all, between, listed, finished⟩
  rw [← (HostRun.pure_ok.mp finished).1]
  rcases steps_ok listed with ⟨text, animation, clock, status, flash, textMade, animated,
    clockMade, statusMade, flashMade, rfl⟩
  have body : ∀ {last : List (String × List String)} {ending : List Step},
      Assembled last ending → Assembled (features config scene.inputs ++ last)
        (scaleSteps scene.format scene.background ++ (text ++ (animation ++
          (logoSteps config scene.inputs.logo ++ (clock ++ (status ++ (flash ++ ending))))))) := by
    intro last ending assembled
    exact .cons (feature_scaleSteps _ _) (.cons (feature_textSteps textMade)
      (.cons (feature_animationSteps animated) (.cons (feature_logoSteps _ _)
        (.cons (feature_clockSteps clockMade) (.cons (feature_statusSteps statusMade)
          (.cons (feature_flashSteps flashMade) assembled))))))
  unfold innerFeatures
  -- A progressive picture ends with the shift itself, an interlaced one with a stage after it.
  cases interlaced : scene.format.interlaced with
  | true =>
      refine ⟨_, Chain.interlaceFilters scene.format.fps,
        body (.cons (.single "preroll" prerollStep.filters) .nil), ?_⟩
      rw [terminate_interlaced]
      simp only [List.append_assoc, List.append_nil]
      rfl
  | false =>
      refine ⟨_, prerollStep.filters, body .nil, ?_⟩
      refine (terminate_progressive _ _ "preroll" prerollStep.filters _).trans ?_
      simp only [List.append_assoc, List.append_nil]
      rfl

/-- Rate and features together. -/
theorem Assembled.rated {config : RawConfig} {scene : Scene} {steps : List Step}
    (assembled : Assembled (innerFeatures config scene) steps) :
    Assembled (("fps", []) :: innerFeatures config scene) (rateStep scene.format :: steps) :=
  .cons (.single "fps" _) assembled

theorem Assembled.isWord_kind {config : RawConfig} {scene : Scene} {steps : List Step}
    (assembled : Assembled (innerFeatures config scene) steps) :
    ∀ step ∈ rateStep scene.format :: steps, isWord step.kind = true := by
  intro step member
  rcases List.mem_cons.mp member with rate | feature
  · rw [rate]
    change isWord "fps" = true
    decide
  · exact isWord_of_mem_innerFeatures (assembled.kind_mem feature)

/-- The pads that a picture takes are those of its selected inputs. -/
theorem Assembled.balanced_selected {config : RawConfig} {scene : Scene} {steps : List Step}
    (assembled : Assembled (innerFeatures config scene) steps) :
    (Chain.ofSteps scene.inputs.base (rateStep scene.format :: steps)).Balanced
      (selectedPads config scene.inputs) false := by
  rw [← flatMap_innerFeatures]
  exact assembled.rated.balanced scene.inputs.base

/-- The wired pads are distinct pads of files. -/
structure Inputs.FromFiles (inputs : Inputs) : Prop where
  nodup : inputs.wiredPads.Nodup
  files : ∀ pad ∈ inputs.wiredPads, isFilePad pad = true

/--
The graph of any picture is wired linearly over its selected inputs: the base, and
the pads of the animation and the logo where these are asked for.
-/
theorem linearWiring_graph {config : RawConfig} {scene : Scene} {fonts : Fonts}
    {host after : Host} {graph : FilterGraph} (inputs : scene.inputs.FromFiles)
    (built : Picture.graph config scene fonts host = (.ok graph, after)) :
    LinearWiring (selectedPads config scene.inputs) graph := by
  rcases graph_eq_closed built with ⟨steps, filters, assembled, rfl⟩
  have selected := selectedPads_sublist config scene.inputs
  apply linearWiring_closed assembled.balanced_selected assembled.isWord_kind
  · exact inputs.nodup.sublist selected
  · intro pad member
    exact inputs.files pad (selected.subset member)

/-- A configuration that asks for every feature of a picture. -/
def showcaseConfig : RawConfig :=
  { Config.standard.toRaw with
    text := .string "ON AIR\x5cnSTUDIO"
    animation := .string "staircase_pulse"
    showClock := .number 1
    showConfigOverlay := .bool true }

/-- The sound of two channels at a fixed rate, with a flash on the first one. -/
def showcaseSound : Except Fault Audio.Plan :=
  Audio.synthesize .null .null (.list [.bool true]) .null .null 50

def showcaseClock : Clock.Reading := ({ epochMs := 0 } : Clock.Timebase).reading

def showcaseInputs : Inputs := { animation := some "1:v", logo := some "2:v" }

def showcaseScene (audio : Audio.Plan) : Scene where
  format := Format.standard
  background := { id := "bars", name := "Bars", kind := "image", source := .picture "bars.png" }
  inputs := showcaseInputs
  audio
  clock := showcaseClock

theorem linearWiring_showcase :
    ∃ audio graph after, showcaseSound = .ok audio ∧
      Picture.graph showcaseConfig (showcaseScene audio) (Fonts.standard "/mono.ttf") Host.idle =
        (.ok graph, after) ∧ LinearWiring ["0:v", "1:v", "2:v"] graph := by
  have finishes : showcaseSound.toOption.any (fun audio =>
      (Picture.graph showcaseConfig (showcaseScene audio) (Fonts.standard "/mono.ttf")
        Host.idle).1.isOk) = true := by decide +kernel
  rcases Outcome.any_ok.mp finishes with ⟨audio, made, finishes⟩
  rcases HostRun.exists_ok finishes with ⟨graph, after, built⟩
  refine ⟨audio, graph, after, made, built, ?_⟩
  have selected : selectedPads showcaseConfig showcaseInputs = ["0:v", "1:v", "2:v"] := by
    decide +kernel
  have files : showcaseInputs.FromFiles := ⟨by decide +kernel, by decide +kernel⟩
  rw [← selected]
  exact linearWiring_graph files built

end Picture

end TestSignal
