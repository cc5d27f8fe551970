import TestSignal.Proofs.Picture.Linear

namespace TestSignal

/-!
# Which stage reads which file

The line starts at the base, so the first stage reads the base's file and no later
stage reads it through the line.  A later stage reads a file only when its step names
the file's pad.  What the stages of one kind read is therefore what the steps of that
kind name, and the first stage's kind reads the base besides.

The kind of a stage is read off its label, so the statements here are about the
finished graph and mention no step.
-/

/-- The letters that a stage's label begins with. -/
def Stage.kind (stage : Stage) : String :=
  String.ofList ((stage.output.getD "").toList.takeWhile Char.isAlpha)

/-- The pads of files that the stages of a kind read, in stage order. -/
def FilterGraph.filesRead (graph : FilterGraph) (kind : String) : List String :=
  (graph.stages.filter fun stage => stage.kind = kind).flatMap fun stage =>
    stage.inputs.filter Picture.isFilePad

namespace Picture

theorem filesRead_add (graph : FilterGraph) (stage : Stage) (kind : String) :
    (graph.add stage).filesRead kind =
      graph.filesRead kind ++
        if stage.kind = kind then stage.inputs.filter isFilePad else [] := by
  change ((graph.stages ++ [stage]).filter _).flatMap _ = _
  rw [List.filter_append, List.flatMap_append, List.filter_singleton]
  by_cases same : stage.kind = kind
  · simp only [same, decide_true, if_true, cond_true, List.flatMap_singleton]
    rfl
  · simp only [same, decide_false, if_false, cond_false, List.flatMap_nil]
    rfl

theorem kind_stage {step : Step} (word : isWord step.kind = true) (chain : Chain) :
    (chain.stage step).kind = step.kind := by
  change String.ofList ((stageLabel step.kind chain.index).toList.takeWhile Char.isAlpha) = _
  rw [takeWhile_stageLabel word, String.ofList_toList]

/-- Where neither the line nor the latest stage is a file, a step reads the files it names. -/
theorem filter_inputs_stage {chain : Chain} (line : isFilePad chain.line = false)
    (latest : isFilePad chain.latest = false) (step : Step) :
    (chain.stage step).inputs.filter isFilePad = step.ownPads.filter isFilePad := by
  change (step.inputs.map chain.resolve).filter isFilePad =
    (step.inputs.filterMap _).filter isFilePad
  induction step.inputs with
  | nil => rfl
  | cons input rest ih =>
      cases input with
      | pad label => simp only [List.map_cons, Chain.resolve, List.filterMap_cons,
          List.filter_cons, ih]
      | line => simp only [List.map_cons, Chain.resolve, List.filterMap_cons,
          List.filter_cons, line, Bool.false_eq_true, if_false, ih]
      | latest => simp only [List.map_cons, Chain.resolve, List.filterMap_cons,
          List.filter_cons, latest, Bool.false_eq_true, if_false, ih]

/-- The files that the steps of a kind name. -/
def namedFiles (steps : List Step) (kind : String) : List String :=
  (steps.filter fun step => step.kind = kind).flatMap fun step => step.ownPads.filter isFilePad

theorem namedFiles_cons (step : Step) (rest : List Step) (kind : String) :
    namedFiles (step :: rest) kind =
      (if step.kind = kind then step.ownPads.filter isFilePad else []) ++
        namedFiles rest kind := by
  unfold namedFiles
  by_cases same : step.kind = kind
  · simp only [List.filter_cons, same, decide_true, if_true, List.flatMap_cons]
  · simp only [List.filter_cons, same, decide_false, Bool.false_eq_true, if_false,
      List.nil_append]

/-- Once the line has left the base, the stages of a kind read the files that its steps name. -/
theorem filesRead_foldl {steps : List Step}
    (words : ∀ step ∈ steps, isWord step.kind = true) (chain : Chain)
    (line : isFilePad chain.line = false) (latest : isFilePad chain.latest = false)
    (kind : String) :
    (steps.foldl Chain.extend chain).graph.filesRead kind =
        chain.graph.filesRead kind ++ namedFiles steps kind ∧
      isFilePad (steps.foldl Chain.extend chain).line = false := by
  induction steps generalizing chain with
  | nil => exact ⟨(List.append_nil _).symm, line⟩
  | cons step rest ih =>
      have word := words step List.mem_cons_self
      have label : isFilePad (chain.label step) = false :=
        isFilePad_stageLabel word chain.index
      have nextLine : isFilePad (chain.extend step).line = false := by
        change isFilePad (if step.joins then chain.label step else chain.line) = false
        split
        · exact label
        · exact line
      have later := ih (fun other inRest => words other (List.mem_cons_of_mem _ inRest))
        (chain.extend step) nextLine label
      rw [List.foldl_cons]
      refine ⟨?_, later.2⟩
      rw [later.1, namedFiles_cons, ← List.append_assoc]
      congr 1
      change (chain.graph.add (chain.stage step)).filesRead kind = _
      rw [filesRead_add, kind_stage word, filter_inputs_stage line latest]

/-- The steps of each feature name that feature's files. -/
theorem namedFiles_assembled {features : List (String × List String)} {steps : List Step}
    (assembled : Assembled features steps) (kind : String) :
    namedFiles steps kind =
      (features.filter fun feature => feature.1 = kind).flatMap fun feature =>
        feature.2.filter isFilePad := by
  induction assembled with
  | nil => rfl
  | @cons other pads steps rest more feature _ ih =>
      have split : namedFiles (steps ++ more) kind =
          namedFiles steps kind ++ namedFiles more kind := by
        unfold namedFiles
        rw [List.filter_append, List.flatMap_append]
      rw [split, ih, List.filter_cons]
      unfold namedFiles
      by_cases same : other = kind
      · have all : (steps.filter fun step => step.kind = kind) = steps := by
          rw [List.filter_eq_self]
          intro step member
          rw [feature.kinds step member, same]
          exact decide_eq_true rfl
        have own : (steps.flatMap fun step => step.ownPads.filter isFilePad) =
            pads.filter isFilePad := by
          rw [← feature.own_pads, List.filter_flatMap]
        simp only [all, own, same, decide_true, if_true, List.flatMap_cons]
      · have none : (steps.filter fun step => step.kind = kind) = [] := by
          rw [List.filter_eq_nil_iff]
          intro step member
          rw [feature.kinds step member]
          simpa only [decide_eq_true_eq] using same
        simp only [none, same, decide_false, Bool.false_eq_true, if_false, List.flatMap_nil,
          List.nil_append]

/-- The end of the graph reads the line, which is no file. -/
theorem filesRead_closed {chain : Chain} (line : isFilePad chain.line = false)
    (filters : List Filter) (kind : String) :
    (closed chain filters).filesRead kind = chain.graph.filesRead kind := by
  rw [closed, filesRead_add]
  simp only [List.filter_cons, line, Bool.false_eq_true, if_false, List.filter_nil, ite_self,
    List.append_nil]

/-- The stage at the start of a line reads the file that the line starts at. -/
theorem filesRead_first {first : Step} (word : isWord first.kind = true)
    (alone : first.inputs = [.line]) {source : String} (file : isFilePad source = true)
    (kind : String) :
    ((Chain.start source).extend first).graph.filesRead kind =
      if first.kind = kind then [source] else [] := by
  have inputs : ((Chain.start source).stage first).inputs = [source] := by
    unfold Chain.stage
    rw [alone]
    rfl
  unfold Chain.extend
  rw [filesRead_add, kind_stage word, inputs, List.filter_cons_of_pos file, List.filter_nil]
  exact List.nil_append _

/-- In a whole picture the first stage reads the base, and every feature its own files. -/
theorem filesRead_picture {config : RawConfig} {scene : Scene} {steps : List Step}
    (assembled : Assembled (innerFeatures config scene) steps)
    (base : isFilePad scene.inputs.base = true) (filters : List Filter) (kind : String) :
    (closed (Chain.ofSteps scene.inputs.base (rateStep scene.format :: steps))
        filters).filesRead kind =
      (if "fps" = kind then [scene.inputs.base] else []) ++
        ((innerFeatures config scene).filter fun feature => feature.1 = kind).flatMap
          fun feature => feature.2.filter isFilePad := by
  have words := assembled.isWord_kind
  have rateWord := words (rateStep scene.format) List.mem_cons_self
  have started := filesRead_first rateWord rfl base kind
  have label : isFilePad ((Chain.start scene.inputs.base).label (rateStep scene.format)) =
      false := isFilePad_stageLabel rateWord 0
  rcases filesRead_foldl (fun step member => words step (List.mem_cons_of_mem _ member))
    ((Chain.start scene.inputs.base).extend (rateStep scene.format)) label label kind
    with ⟨read, line⟩
  rw [Chain.ofSteps, List.foldl_cons, filesRead_closed line, read, started,
    namedFiles_assembled assembled]
  rfl

/-! ## The base, the animation and the logo -/

section Built

variable {config : RawConfig} {scene : Scene} {fonts : Fonts} {host after : Host}
  {graph : FilterGraph}

theorem filesRead_graph (built : Picture.graph config scene fonts host = (.ok graph, after))
    (base : isFilePad scene.inputs.base = true) :
    graph.filesRead "fps" = [scene.inputs.base] ∧
      graph.filesRead "anim" = (animationPads config scene.inputs).filter isFilePad ∧
      graph.filesRead "logo" = (logoPads config scene.inputs).filter isFilePad := by
  rcases graph_eq_closed built with ⟨steps, filters, assembled, rfl⟩
  have read := filesRead_picture assembled base filters
  unfold innerFeatures features at read
  refine ⟨?_, ?_, ?_⟩
  · rw [read]
    cases scene.format.interlaced <;> simp
  · rw [read]
    cases scene.format.interlaced <;> simp
  · rw [read]
    cases scene.format.interlaced <;> simp

/-- The files that a graph reads are the selected pads, each of them once. -/
theorem filePads_graph (built : Picture.graph config scene fonts host = (.ok graph, after))
    (files : ∀ pad ∈ selectedPads config scene.inputs, isFilePad pad = true) :
    (graph.padsRead.filter isFilePad).Perm (selectedPads config scene.inputs) := by
  rcases graph_eq_closed built with ⟨steps, filters, assembled, rfl⟩
  have read := (assembled.balanced_selected.padsRead_perm filters).filter isFilePad
  have labels : (labelsFrom 0 (rateStep scene.format :: steps)).filter isFilePad = [] := by
    rw [List.filter_eq_nil_iff]
    intro label member
    rw [isFilePad_of_mem_labelsFrom assembled.isWord_kind member]
    exact Bool.false_ne_true
  rw [List.filter_append, labels, List.append_nil, List.filter_eq_self.mpr files] at read
  exact read

/-- A pad that a graph reads and that is no file's is the output of one of its stages. -/
theorem mem_outputs_graph (built : Picture.graph config scene fonts host = (.ok graph, after))
    (files : ∀ pad ∈ selectedPads config scene.inputs, isFilePad pad = true) {pad : String}
    (member : pad ∈ graph.padsRead) (other : isFilePad pad = false) : pad ∈ graph.outputs := by
  rcases graph_eq_closed built with ⟨steps, filters, assembled, rfl⟩
  have read := assembled.balanced_selected.padsRead_perm filters
  rcases List.mem_append.mp (read.mem_iff.mp member) with selected | labelled
  · exact absurd ((files pad selected).symm.trans other) (by decide)
  · rw [outputs_closed, outputs_ofSteps]
    exact List.mem_append_left _ labelled

end Built

end Picture

end TestSignal
