import TestSignal.Proofs.Picture.FilePads

namespace TestSignal

/-!
# What the stages of a kind draw

A stage keeps the filters of its step, and its label keeps the step's kind.  The filters of
one kind in the finished graph are therefore those of the feature of that kind, in order and
with nothing between them.  Only the last stage of the graph has no kind of its own, since
its label is that of the finished picture.

Statements about what a picture shows are about these filters, so they are read off the graph
and mention no step.
-/

/-- The value of a named option of a filter. -/
def Filter.option? (filter : Filter) (name : String) : Option OptionValue :=
  filter.params.lookup name

/-- The filters of the stages of a kind, in the order in which they are applied. -/
def FilterGraph.drawnBy (graph : FilterGraph) (kind : String) : List Filter :=
  (graph.stages.filter fun stage => stage.kind = kind).flatMap Stage.filters

namespace Picture

/-! ## Steps of a kind -/

/-- The filters of the steps of a kind. -/
def filtersOf (kind : String) (steps : List Step) : List Filter :=
  (steps.filter fun step => step.kind = kind).flatMap Step.filters

theorem filtersOf_append (kind : String) (steps more : List Step) :
    filtersOf kind (steps ++ more) = filtersOf kind steps ++ filtersOf kind more := by
  unfold filtersOf
  rw [List.filter_append, List.flatMap_append]

theorem filtersOf_cons (kind : String) (step : Step) (rest : List Step) :
    filtersOf kind (step :: rest) =
      (if step.kind = kind then step.filters else []) ++ filtersOf kind rest := by
  unfold filtersOf
  rw [List.filter_cons]
  split
  · rename_i same
    rw [if_pos (of_decide_eq_true same), List.flatMap_cons]
  · rename_i other
    rw [if_neg fun same => other (decide_eq_true same), List.nil_append]

/-- A feature has all filters of its own kind and none of another. -/
theorem Feature.filtersOf {own : String} {pads : List String} {steps : List Step}
    (feature : Feature own pads steps) (kind : String) :
    filtersOf kind steps = if own = kind then steps.flatMap Step.filters else [] := by
  unfold Picture.filtersOf
  by_cases same : own = kind
  · rw [if_pos same, List.filter_eq_self.mpr]
    intro step member
    rw [feature.kinds step member]
    exact decide_eq_true same
  · rw [if_neg same, List.filter_eq_nil_iff.mpr, List.flatMap_nil]
    intro step member
    rw [feature.kinds step member]
    simpa only [decide_eq_true_eq] using same

/-- Steps that draw each of some filters on the line have these filters. -/
theorem flatMap_filters_onLine (kind : String) (filters : List Filter) :
    (filters.map fun filter => Step.onLine kind [filter]).flatMap Step.filters = filters := by
  rw [List.flatMap_map]
  exact List.flatMap_singleton' filters

/-! ## Stages of a kind -/

theorem drawnBy_add (graph : FilterGraph) (stage : Stage) (kind : String) :
    (graph.add stage).drawnBy kind =
      graph.drawnBy kind ++ if stage.kind = kind then stage.filters else [] := by
  change ((graph.stages ++ [stage]).filter _).flatMap _ = _
  rw [List.filter_append, List.flatMap_append, List.filter_singleton]
  by_cases same : stage.kind = kind
  · simp only [same, decide_true, if_true, cond_true, List.flatMap_singleton]
    rfl
  · simp only [same, decide_false, if_false, cond_false, List.flatMap_nil]
    rfl

/-- Each step adds its filters to those of its kind. -/
theorem drawnBy_foldl {steps : List Step} (words : ∀ step ∈ steps, isWord step.kind = true)
    (chain : Chain) (kind : String) :
    (steps.foldl Chain.extend chain).graph.drawnBy kind =
      chain.graph.drawnBy kind ++ filtersOf kind steps := by
  induction steps generalizing chain with
  | nil => exact (List.append_nil _).symm
  | cons step rest ih =>
      have later := ih (fun other inRest => words other (List.mem_cons_of_mem _ inRest))
        (chain.extend step)
      have added : (chain.extend step).graph.drawnBy kind =
          chain.graph.drawnBy kind ++ if step.kind = kind then step.filters else [] := by
        change (chain.graph.add (chain.stage step)).drawnBy kind = _
        rw [drawnBy_add, kind_stage (words step List.mem_cons_self)]
        rfl
      rw [List.foldl_cons, later, added, filtersOf_cons, List.append_assoc]

/-- The stage that ends the graph is of no other kind. -/
theorem drawnBy_closed {steps : List Step} (words : ∀ step ∈ steps, isWord step.kind = true)
    (source : String) (filters : List Filter) {kind : String} (other : kind ≠ "v") :
    (closed (Chain.ofSteps source steps) filters).drawnBy kind = filtersOf kind steps := by
  rw [closed, drawnBy_add, if_neg, List.append_nil]
  · exact drawnBy_foldl words (Chain.start source) kind
  · change String.ofList (Chain.outputPad.toList.takeWhile Char.isAlpha) ≠ kind
    have last : String.ofList (Chain.outputPad.toList.takeWhile Char.isAlpha) = "v" := by decide
    rw [last]
    exact fun same => other same.symm

/-! ## Every feature's filters -/

/-- Among features of different kinds, each has the filters of its kind to itself. -/
theorem filtersOf_flatMap {pieces : List (String × List Step)}
    (features : ∀ piece ∈ pieces, ∃ pads, Feature piece.1 pads piece.2)
    (distinct : (pieces.map Prod.fst).Nodup) {piece : String × List Step}
    (member : piece ∈ pieces) :
    filtersOf piece.1 (pieces.flatMap Prod.snd) = piece.2.flatMap Step.filters := by
  induction pieces with
  | nil => exact absurd member List.not_mem_nil
  | cons first rest ih =>
      rw [List.map_cons, List.nodup_cons] at distinct
      rcases features first List.mem_cons_self with ⟨pads, feature⟩
      have later : ∀ piece ∈ rest, ∃ pads, Feature piece.1 pads piece.2 :=
        fun other inRest => features other (List.mem_cons_of_mem _ inRest)
      rw [List.flatMap_cons, filtersOf_append, feature.filtersOf]
      rcases List.mem_cons.mp member with rfl | inRest
      · -- No later feature is of this kind.
        have others : filtersOf piece.1 (rest.flatMap Prod.snd) = [] := by
          unfold Picture.filtersOf
          rw [List.filter_eq_nil_iff.mpr, List.flatMap_nil]
          intro step among same
          rcases List.mem_flatMap.mp among with ⟨other, inRest, inOther⟩
          rcases later other inRest with ⟨pads, feature⟩
          apply distinct.1
          rw [← of_decide_eq_true same, feature.kinds step inOther]
          exact List.mem_map_of_mem inRest
        rw [if_pos rfl, others, List.append_nil]
      · rw [if_neg, List.nil_append]
        · exact ih later distinct.2 inRest
        · intro same
          apply distinct.1
          rw [same]
          exact List.mem_map_of_mem inRest

/-- In a graph that is closed over features, each has its filters under its own kind. -/
theorem drawnBy_closed_flatMap {pieces : List (String × List Step)}
    (features : ∀ piece ∈ pieces, ∃ pads, Feature piece.1 pads piece.2)
    (distinct : (pieces.map Prod.fst).Nodup) (words : ∀ piece ∈ pieces, isWord piece.1 = true)
    (source : String) (filters : List Filter) {piece : String × List Step}
    (member : piece ∈ pieces) (other : piece.1 ≠ "v") :
    (closed (Chain.ofSteps source (pieces.flatMap Prod.snd)) filters).drawnBy piece.1 =
      piece.2.flatMap Step.filters := by
  rw [drawnBy_closed _ source filters other]
  · exact filtersOf_flatMap features distinct member
  · intro step among
    rcases List.mem_flatMap.mp among with ⟨found, inPieces, inFound⟩
    rcases features found inPieces with ⟨pads, feature⟩
    rw [feature.kinds step inFound]
    exact words found inPieces

/-- Features that a picture may have before the shift: of different kinds, each a word. -/
structure Distinct (pieces : List (String × List Step)) : Prop where
  features : ∀ piece ∈ pieces, ∃ pads, Feature piece.1 pads piece.2
  kinds_nodup : (pieces.map Prod.fst).Nodup
  kinds_words : ∀ kind ∈ pieces.map Prod.fst, isWord kind = true ∧ kind ∉ ["preroll", "v"]

/-- However a picture is ended, each of its features has the filters of its kind. -/
theorem Distinct.drawnBy {pieces : List (String × List Step)} (distinct : Distinct pieces)
    (source : String) (fps : Number) (interlaced : Bool) {piece : String × List Step}
    (member : piece ∈ pieces) :
    ((Chain.ofSteps source (pieces.flatMap Prod.snd ++ [prerollStep])).terminate fps
        interlaced).graph.drawnBy piece.1 = piece.2.flatMap Step.filters := by
  have named : ∀ piece ∈ pieces, isWord piece.1 = true ∧ piece.1 ∉ ["preroll", "v"] :=
    fun piece among => distinct.kinds_words piece.1 (List.mem_map_of_mem among)
  have other : piece.1 ≠ "v" := fun same => (named piece member).2 (by rw [same]; decide)
  -- A progressive picture ends with the shift itself, an interlaced one with a stage after it.
  cases interlaced with
  | false =>
      have ended := terminate_progressive source (pieces.flatMap Prod.snd) "preroll"
        prerollStep.filters fps
      refine (congrArg (FilterGraph.drawnBy · piece.1) ended).trans ?_
      exact drawnBy_closed_flatMap distinct.features distinct.kinds_nodup
        (fun piece among => (named piece among).1) source _ member other
  | true =>
      have shifted : pieces.flatMap Prod.snd ++ [prerollStep] =
          (pieces ++ [("preroll", [prerollStep])]).flatMap Prod.snd := by
        rw [List.flatMap_append]
        rfl
      rw [terminate_interlaced, shifted]
      apply drawnBy_closed_flatMap _ _ _ source _ (List.mem_append_left _ member) other
      · rw [List.forall_mem_append]
        exact ⟨distinct.features, List.forall_mem_singleton.mpr ⟨_, .single "preroll" _⟩⟩
      · rw [List.map_append, List.map_singleton, ← List.concat_eq_append, List.nodup_concat]
        refine ⟨fun among => ?_, distinct.kinds_nodup⟩
        exact (distinct.kinds_words _ among).2 List.mem_cons_self
      · rw [List.forall_mem_append]
        exact ⟨fun piece among => (named piece among).1,
          List.forall_mem_singleton.mpr (by decide)⟩

/-- The steps of each feature of a graph, and the filters that they leave in it. -/
structure Drawing (config : RawConfig) (scene : Scene) (fonts : Fonts) (host after : Host)
    (graph : FilterGraph) : Prop where
  rate : graph.drawnBy "fps" = (rateStep scene.format).filters
  scale : graph.drawnBy "base" =
    (scaleSteps scene.format scene.background).flatMap Step.filters
  text : ∃ steps, textSteps config fonts host = (.ok steps, after) ∧
    graph.drawnBy "txt" = steps.flatMap Step.filters
  logo : graph.drawnBy "logo" = (logoSteps config scene.inputs.logo).flatMap Step.filters
  clock : ∃ steps, clockSteps config scene fonts = .ok steps ∧
    graph.drawnBy "clock" = steps.flatMap Step.filters
  status : ∃ steps, statusSteps config scene fonts = .ok steps ∧
    graph.drawnBy "overlay" = steps.flatMap Step.filters
  flash : ∃ steps, flashSteps config scene fonts = .ok steps ∧
    graph.drawnBy "flash" = steps.flatMap Step.filters

/-- Every graph has the filters of its features, each under the feature's kind. -/
theorem drawing_graph {config : RawConfig} {scene : Scene} {fonts : Fonts} {host after : Host}
    {graph : FilterGraph}
    (built : Picture.graph config scene fonts host = (.ok graph, after)) :
    Drawing config scene fonts host after graph := by
  rcases HostRun.bind_ok.mp built with ⟨all, between, listed, finished⟩
  rcases HostRun.pure_ok.mp finished with ⟨graphIs, rfl⟩
  rcases steps_ok listed with ⟨text, animation, clock, status, flash, textMade, animated,
    clockMade, statusMade, flashMade, rfl⟩
  let pieces : List (String × List Step) :=
    [("fps", [rateStep scene.format]), ("base", scaleSteps scene.format scene.background),
      ("txt", text), ("anim", animation), ("logo", logoSteps config scene.inputs.logo),
      ("clock", clock), ("overlay", status), ("flash", flash)]
  have distinct : Distinct pieces := by
    constructor
    case features =>
      simp only [pieces, List.forall_mem_cons]
      exact ⟨⟨_, .single "fps" _⟩, ⟨_, feature_scaleSteps _ _⟩, ⟨_, feature_textSteps textMade⟩,
        ⟨_, feature_animationSteps animated⟩, ⟨_, feature_logoSteps _ scene.inputs⟩,
        ⟨_, feature_clockSteps clockMade⟩, ⟨_, feature_statusSteps statusMade⟩,
        ⟨_, feature_flashSteps flashMade⟩, List.forall_mem_nil _⟩
    case kinds_nodup =>
      change ["fps", "base", "txt", "anim", "logo", "clock", "overlay", "flash"].Nodup
      decide
    case kinds_words =>
      change ∀ kind ∈ ["fps", "base", "txt", "anim", "logo", "clock", "overlay", "flash"], _
      decide
  have drawn : ∀ piece ∈ pieces, graph.drawnBy piece.1 = piece.2.flatMap Step.filters := by
    intro piece member
    rw [← graphIs, ← distinct.drawnBy scene.inputs.base scene.format.fps scene.format.interlaced
      member]
    simp only [pieces, List.flatMap_cons, List.flatMap_nil, List.append_nil, List.append_assoc]
  simp only [pieces, List.forall_mem_cons] at drawn
  rcases drawn with ⟨rate, scale, text, _, logo, clock, status, flash, _⟩
  exact
    { rate := rate.trans (List.append_nil _), scale := scale, text := ⟨_, textMade, text⟩
      logo := logo, clock := ⟨_, clockMade, clock⟩, status := ⟨_, statusMade, status⟩
      flash := ⟨_, flashMade, flash⟩ }

/-- The picture has the cues of the flash exactly when some slot is asked to flash. -/
theorem Drawing.flash_cues {config : RawConfig} {scene : Scene} {fonts : Fonts}
    {host after : Host} {graph : FilterGraph}
    (drawing : Drawing config scene fonts host after graph) :
    (graph.drawnBy "flash" ≠ [] ↔ scene.audio.anyFlash = true) ∧
      (graph.drawnBy "flash" ≠ [] →
        Overlay.flashFilters scene.format config.flashOverlayOffset fonts.default =
          .ok (graph.drawnBy "flash")) := by
  rcases drawing.flash with ⟨steps, made, drawn⟩
  unfold flashSteps at made
  cases asked : scene.audio.anyFlash with
  | false =>
      rw [asked, Bool.not_false, if_pos rfl] at made
      rw [drawn, ← Outcome.pure_ok.mp made]
      simp
  | true =>
      rw [asked, Bool.not_true, if_neg Bool.false_ne_true] at made
      rcases Outcome.bind_ok.mp made with ⟨filters, cued, made⟩
      rw [drawn, ← Outcome.pure_ok.mp made, flatMap_filters_onLine]
      refine ⟨iff_of_true ?_ rfl, fun _ => cued⟩
      rcases Outcome.bind_ok.mp cued with ⟨cues, cycle, cued⟩
      rcases Outcome.bind_ok.mp cued with ⟨size, _, cued⟩
      rcases Outcome.bind_ok.mp cued with ⟨top, _, cued⟩
      rcases Outcome.bind_ok.mp cycle with ⟨frames, _, cycle⟩
      rw [← Outcome.pure_ok.mp cued, ← Outcome.pure_ok.mp cycle]
      exact List.cons_ne_nil _ _

end Picture

end TestSignal
