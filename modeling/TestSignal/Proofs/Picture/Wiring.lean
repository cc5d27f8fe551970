import Mathlib.Data.List.Nodup
import TestSignal.Proofs.Picture.Label

namespace TestSignal

/-!
# Linear wiring

A graph is wired linearly when no picture in it is lost and none is used twice:
every source and every stage's output but the last is read by one stage, once, and
only by a later stage.

The chain keeps this by an account of pads.  Whatever has been read so far, together
with the ends that are still open, is a rearrangement of the sources taken so far
together with the labels given so far.  A step moves pads from one side of the account
to the other and never changes the balance.  Since sources and labels are pairwise
distinct, a balanced account without open ends but one is linear wiring.

Nothing here depends on which features a picture has.  The order of the steps comes
in only through `Threaded`, which says where a step may stand beside the line.
-/

namespace FilterGraph

/-- The pads that the stages read, in stage order and with repetitions. -/
def padsRead (graph : FilterGraph) : List String := graph.stages.flatMap Stage.inputs

end FilterGraph

namespace Picture

/-! ## What linear wiring is -/

/-- Every stage reads only sources and outputs of stages before it. -/
def ReadsEarlier (sources : List String) (stages : List Stage) : Prop :=
  ∀ before stage after, stages = before ++ stage :: after →
    ∀ pad ∈ stage.inputs, pad ∈ sources ∨ some pad ∈ before.map Stage.outputLabel?

/-- A graph in which each source and each intermediate picture is used once. -/
structure LinearWiring (sources : List String) (graph : FilterGraph) : Prop where
  /-- Every stage has an output label. -/
  labelled : graph.stages.map Stage.outputLabel? = graph.outputs.map some
  outputs_nodup : graph.outputs.Nodup
  reads_earlier : ReadsEarlier sources graph.stages
  output_read_once : ∀ label ∈ graph.outputs.dropLast, graph.padsRead.count label = 1
  source_read_once : ∀ pad ∈ sources, graph.padsRead.count pad = 1
  no_other_file : ∀ pad ∈ graph.padsRead, isFilePad pad = true → pad ∈ sources
  last_is_output : graph.lastOutput = some Chain.outputPad
  only_last_is_output : Chain.outputPad ∉ graph.outputs.dropLast

/-! ## Steps that fit together -/

/-- The pads that a step names itself, besides the line and the latest stage. -/
def Step.ownPads (step : Step) : List String :=
  step.inputs.filterMap fun input =>
    match input with
    | .pad label => some label
    | _ => none

/--
A list of steps that leaves the line as the only open end.  The flag tells whether
a stage beside the line waits to be taken in.
-/
inductive Threaded : (waiting : Bool) → List Step → Prop where
  | done : Threaded false []
  | along {kind filters rest} : Threaded false rest →
      Threaded false (.onLine kind filters :: rest)
  | overlaid {kind filters pad rest} : Threaded false rest →
      Threaded false (.onLine kind filters [.pad pad] :: rest)
  | aside {kind filters pad rest} : Threaded true rest →
      Threaded false (.beside kind [.pad pad] filters :: rest)
  | further {kind filters rest} : Threaded true rest →
      Threaded true (.beside kind [.latest] filters :: rest)
  | joined {kind filters rest} : Threaded false rest →
      Threaded true (.onLine kind filters [.latest] :: rest)

theorem Threaded.append {waiting : Bool} {steps more : List Step}
    (first : Threaded waiting steps) (second : Threaded false more) :
    Threaded waiting (steps ++ more) := by
  induction first with
  | done => exact second
  | along _ ih => exact ih.along
  | overlaid _ ih => exact ih.overlaid
  | aside _ ih => exact ih.aside
  | further _ ih => exact ih.further
  | joined _ ih => exact ih.joined

/-- One stage on the line for each of some filters. -/
theorem threaded_map_onLine (kind : String) (filters : List Filter) :
    Threaded false (filters.map fun filter => .onLine kind [filter]) := by
  induction filters with
  | nil => exact .done
  | cons filter rest ih => exact ih.along

/-! ## Outputs of a chain -/

theorem outputs_eq_of_map {stages : List Stage} {labels : List String}
    (labelled : stages.map Stage.outputLabel? = labels.map some) :
    FilterGraph.outputs { stages } = labels := by
  have flattened : FilterGraph.outputs { stages } =
      (stages.map Stage.outputLabel?).filterMap id := by
    rw [List.filterMap_map]
    rfl
  rw [flattened, labelled, List.filterMap_map]
  exact List.filterMap_some

theorem outputLabel?_stage (chain : Chain) (step : Step) :
    (chain.stage step).outputLabel? = some (stageLabel step.kind chain.index) := by
  have kept : (!(stageLabel step.kind chain.index).isEmpty) = true := by
    rw [stageLabel_ne_empty]
    rfl
  exact Option.filter_some_pos kept

/-- Steps label their stages by kind and number, in order. -/
theorem map_outputLabel?_foldl (steps : List Step) (chain : Chain) :
    (steps.foldl Chain.extend chain).graph.stages.map Stage.outputLabel? =
      chain.graph.stages.map Stage.outputLabel? ++ (labelsFrom chain.index steps).map some := by
  induction steps generalizing chain with
  | nil => exact (List.append_nil _).symm
  | cons step rest ih =>
      rw [List.foldl_cons, ih]
      change (chain.graph.stages ++ [chain.stage step]).map Stage.outputLabel? ++
        (labelsFrom (chain.index + 1) rest).map some = _
      rw [List.map_append, List.map_singleton, outputLabel?_stage, List.append_assoc]
      rfl

theorem map_outputLabel?_ofSteps (source : String) (steps : List Step) :
    (Chain.ofSteps source steps).graph.stages.map Stage.outputLabel? =
      (labelsFrom 0 steps).map some :=
  map_outputLabel?_foldl steps (Chain.start source)

theorem outputs_ofSteps (source : String) (steps : List Step) :
    (Chain.ofSteps source steps).graph.outputs = labelsFrom 0 steps :=
  outputs_eq_of_map (map_outputLabel?_ofSteps source steps)

/-! ## The account of pads -/

/-- The ends of a chain that no stage has read yet. -/
def Chain.openEnds (chain : Chain) (waiting : Bool) : List String :=
  if waiting then [chain.line, chain.latest] else [chain.line]

/-- The account of a chain that has taken some sources. -/
structure Chain.Balanced (taken : List String) (waiting : Bool) (chain : Chain) : Prop where
  balance :
    (chain.graph.padsRead ++ chain.openEnds waiting).Perm (taken ++ chain.graph.outputs)
  reads_earlier : ReadsEarlier taken chain.graph.stages
  labelled : chain.graph.stages.map Stage.outputLabel? = chain.graph.outputs.map some

/-- An open end is a source that was taken or the output of a stage. -/
theorem Chain.Balanced.open_known {taken : List String} {waiting : Bool} {chain : Chain}
    (balanced : chain.Balanced taken waiting) {pad : String}
    (opened : pad ∈ chain.openEnds waiting) :
    pad ∈ taken ∨ some pad ∈ chain.graph.stages.map Stage.outputLabel? := by
  rcases List.mem_append.mp (balanced.balance.subset (List.mem_append_right _ opened)) with
    source | output
  · exact Or.inl source
  · rw [balanced.labelled]
    exact Or.inr (List.mem_map_of_mem output)

theorem ReadsEarlier.append_singleton {sources : List String} {stages : List Stage}
    (earlier : ReadsEarlier sources stages) (more : List String) (stage : Stage)
    (known : ∀ pad ∈ stage.inputs,
      pad ∈ sources ++ more ∨ some pad ∈ stages.map Stage.outputLabel?) :
    ReadsEarlier (sources ++ more) (stages ++ [stage]) := by
  intro before found after window pad member
  -- The stage is the new one, or stands among those before it.
  rcases List.eq_nil_or_concat after with rfl | ⟨front, last, rfl⟩
  · have parts := List.append_inj' window rfl
    rw [← parts.1]
    rw [← (List.cons.inj parts.2).1] at member
    exact known pad member
  · rw [List.concat_eq_append, ← List.cons_append, ← List.append_assoc] at window
    have shorter := (List.append_inj' window rfl).1
    rcases earlier before found front shorter pad member with source | output
    · exact Or.inl (List.mem_append_left more source)
    · exact Or.inr output

theorem outputs_extend (chain : Chain) (step : Step) :
    (chain.extend step).graph.outputs = chain.graph.outputs ++ [chain.label step] := by
  change (chain.graph.stages ++ [chain.stage step]).filterMap Stage.outputLabel? = _
  rw [List.filterMap_append, List.filterMap_cons_some (outputLabel?_stage chain step)]
  rfl

theorem padsRead_extend (chain : Chain) (step : Step) :
    (chain.extend step).graph.padsRead =
      chain.graph.padsRead ++ step.inputs.map chain.resolve := by
  change (chain.graph.stages ++ [chain.stage step]).flatMap Stage.inputs = _
  rw [List.flatMap_append, List.flatMap_singleton]
  rfl

/--
A step keeps the account when what it reads and leaves open is what was open before,
the pads it names itself, and its own label.
-/
theorem Chain.Balanced.extend {taken : List String} {waiting next : Bool} {chain : Chain}
    {step : Step} (balanced : chain.Balanced taken waiting)
    (exchange : (step.inputs.map chain.resolve ++ (chain.extend step).openEnds next).Perm
      (chain.openEnds waiting ++ step.ownPads ++ [chain.label step]))
    (known : ∀ pad ∈ step.inputs.map chain.resolve,
      pad ∈ chain.openEnds waiting ++ step.ownPads) :
    (chain.extend step).Balanced (taken ++ step.ownPads) next where
  balance := by
    rw [padsRead_extend, outputs_extend]
    calc
      (chain.graph.padsRead ++ step.inputs.map chain.resolve ++
          (chain.extend step).openEnds next).Perm
          (chain.graph.padsRead ++
            (chain.openEnds waiting ++ step.ownPads ++ [chain.label step])) := by
        rw [List.append_assoc]
        exact exchange.append_left _
      List.Perm _ (chain.graph.padsRead ++ chain.openEnds waiting ++
          (step.ownPads ++ [chain.label step])) := by
        rw [List.append_assoc, List.append_assoc]
      List.Perm _ (taken ++ chain.graph.outputs ++ (step.ownPads ++ [chain.label step])) :=
        balanced.balance.append_right _
      List.Perm _ (taken ++ step.ownPads ++ (chain.graph.outputs ++ [chain.label step])) := by
        rw [List.append_assoc, List.append_assoc]
        apply List.Perm.append_left
        rw [← List.append_assoc, ← List.append_assoc]
        exact List.perm_append_comm.append_right _
  reads_earlier := by
    apply balanced.reads_earlier.append_singleton
    intro pad member
    rcases List.mem_append.mp (known pad member) with opened | own
    · exact (balanced.open_known opened).imp_left (List.mem_append_left _)
    · exact Or.inl (List.mem_append_right _ own)
  labelled := by
    rw [outputs_extend, List.map_append, ← balanced.labelled]
    change (chain.graph.stages ++ [chain.stage step]).map Stage.outputLabel? = _
    rw [List.map_append, List.map_singleton, outputLabel?_stage]
    rfl

/-- A source without stages is balanced: it is taken and still open. -/
theorem balanced_start (source : String) : (Chain.start source).Balanced [source] false where
  balance := List.Perm.refl [source]
  reads_earlier := by
    intro before stage after window
    have lengths := congrArg List.length window
    simp only [Chain.start, List.length_nil, List.length_append, List.length_cons] at lengths
    omega
  labelled := rfl

/--
Steps that fit together keep the account of any chain, however many there are.  The
induction is on how they fit; each case is one exchange of pads.
-/
theorem Threaded.balanced {waiting : Bool} {steps : List Step}
    (threaded : Threaded waiting steps) {taken : List String} {chain : Chain}
    (balanced : chain.Balanced taken waiting) :
    (steps.foldl Chain.extend chain).Balanced (taken ++ steps.flatMap Step.ownPads) false := by
  induction threaded generalizing taken chain with
  | done =>
      rw [List.flatMap_nil, List.append_nil]
      exact balanced
  | along _ ih | overlaid _ ih | joined _ ih =>
      rw [List.foldl_cons, List.flatMap_cons, ← List.append_assoc]
      apply ih
      apply balanced.extend
      · exact List.Perm.refl _
      · intro pad member
        exact member
  | aside _ ih | further _ ih =>
      -- The line stays open, so the new label goes behind it.
      rw [List.foldl_cons, List.flatMap_cons, ← List.append_assoc]
      apply ih
      apply balanced.extend
      · exact List.Perm.swap _ _ _
      · intro pad member
        exact List.mem_cons_of_mem _ member

/-! ## Closing the line -/

/-- A graph whose last stage reads the line and gives the finished picture. -/
def closed (chain : Chain) (filters : List Filter) : FilterGraph :=
  chain.graph.add
    { inputs := [chain.line], filters, output := some Chain.outputPad }

theorem outputs_closed (chain : Chain) (filters : List Filter) :
    (closed chain filters).outputs = chain.graph.outputs ++ [Chain.outputPad] := by
  change (chain.graph.stages ++ [_]).filterMap Stage.outputLabel? = _
  rw [List.filterMap_append]
  rfl

theorem padsRead_closed (chain : Chain) (filters : List Filter) :
    (closed chain filters).padsRead = chain.graph.padsRead ++ [chain.line] := by
  change (chain.graph.stages ++ [_]).flatMap Stage.inputs = _
  rw [List.flatMap_append, List.flatMap_singleton]
  rfl

/-- In a rearrangement of distinct pads each one occurs once. -/
theorem count_of_perm {pads distinct : List String} {pad : String}
    (rearranged : pads.Perm distinct) (nodup : distinct.Nodup) (member : pad ∈ distinct) :
    pads.count pad = 1 := by
  rw [rearranged.count_eq pad]
  exact List.count_eq_one_of_mem nodup member

/-- Closing the line settles the account: the pads read are the sources and the labels. -/
theorem Chain.Balanced.padsRead_perm {sources : List String} {source : String}
    {steps : List Step} (balanced : (Chain.ofSteps source steps).Balanced sources false)
    (filters : List Filter) :
    (closed (Chain.ofSteps source steps) filters).padsRead.Perm
      (sources ++ labelsFrom 0 steps) := by
  rw [padsRead_closed, ← outputs_ofSteps source steps]
  exact balanced.balance

/-- A balanced chain over files is wired linearly once its line is closed. -/
theorem linearWiring_closed {sources : List String} {source : String} {steps : List Step}
    (balanced : (Chain.ofSteps source steps).Balanced sources false)
    (words : ∀ step ∈ steps, isWord step.kind = true)
    (distinct : sources.Nodup) (files : ∀ pad ∈ sources, isFilePad pad = true)
    (filters : List Filter) :
    LinearWiring sources (closed (Chain.ofSteps source steps) filters) := by
  have account := balanced.padsRead_perm filters
  have nodup : (sources ++ labelsFrom 0 steps).Nodup := by
    rw [List.nodup_append]
    refine ⟨distinct, nodup_labelsFrom words 0, ?_⟩
    intro pad source label member same
    have file := files pad source
    rw [same, isFilePad_of_mem_labelsFrom words member] at file
    exact Bool.false_ne_true file
  have outputs := outputs_closed (Chain.ofSteps source steps) filters
  rw [outputs_ofSteps] at outputs
  constructor
  case labelled =>
    rw [outputs, List.map_append, ← map_outputLabel?_ofSteps source steps]
    exact List.map_append
  case outputs_nodup =>
    rw [outputs, ← List.concat_eq_append, List.nodup_concat]
    exact ⟨outputPad_not_mem_labelsFrom words 0, nodup_labelsFrom words 0⟩
  case reads_earlier =>
    have known := balanced.reads_earlier.append_singleton []
      { inputs := [(Chain.ofSteps source steps).line], filters
        output := some Chain.outputPad }
      (fun pad member => (balanced.open_known member).imp_left (List.mem_append_left _))
    rw [List.append_nil] at known
    exact known
  case output_read_once =>
    intro label member
    rw [outputs, List.dropLast_concat] at member
    exact count_of_perm account nodup (List.mem_append_right _ member)
  case source_read_once =>
    intro pad member
    exact count_of_perm account nodup (List.mem_append_left _ member)
  case no_other_file =>
    intro pad member file
    rcases List.mem_append.mp (account.subset member) with source | label
    · exact source
    · rw [isFilePad_of_mem_labelsFrom words label] at file
      exact absurd file Bool.false_ne_true
  case last_is_output =>
    change ((Chain.ofSteps source steps).graph.stages ++ [_]).getLast?.bind Stage.output = _
    rw [List.getLast?_concat]
    rfl
  case only_last_is_output =>
    rw [outputs, List.dropLast_concat]
    exact outputPad_not_mem_labelsFrom words 0

end Picture

end TestSignal
