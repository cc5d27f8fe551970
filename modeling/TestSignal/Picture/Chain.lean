import TestSignal.Filter

namespace TestSignal

namespace Picture

/-!
# The chain of stages

The picture is processed along one line of stages.  A step adds a stage that
reads the line, and possibly other pads, and becomes the line's new end; or it
adds a stage beside the line, whose output a later step takes in.  A stage is
labelled by its kind and its number, counted from zero over all stages, so no two
labels agree.
-/

/-- What a step reads. -/
inductive StepInput where
  /-- A pad with a label of its own. -/
  | pad (label : String)
  /-- The end of the line. -/
  | line
  /-- The stage that was added last, on the line or beside it. -/
  | latest
  deriving DecidableEq

structure Step where
  kind : String
  inputs : List StepInput
  filters : List Filter
  /-- Whether the stage becomes the end of the line. -/
  joins : Bool

namespace Step

/-- A stage on the line, which reads the given pads besides it. -/
def onLine (kind : String) (filters : List Filter) (others : List StepInput := []) : Step :=
  { kind, inputs := .line :: others, filters, joins := true }

/-- A stage beside the line. -/
def beside (kind : String) (inputs : List StepInput) (filters : List Filter) : Step :=
  { kind, inputs, filters, joins := false }

end Step

structure Chain where
  graph : FilterGraph
  /-- The label at the end of the line. -/
  line : String
  /-- The label of the stage that was added last. -/
  latest : String
  /-- The number of the next stage. -/
  index : Nat

namespace Chain

/-- A line that starts at a pad, without stages. -/
def start (source : String) : Chain :=
  { graph := {}, line := source, latest := source, index := 0 }

def resolve (chain : Chain) : StepInput → String
  | .pad label => label
  | .line => chain.line
  | .latest => chain.latest

/-- The label that a step's stage gets. -/
def label (chain : Chain) (step : Step) : String := step.kind ++ toString chain.index

def stage (chain : Chain) (step : Step) : Stage where
  inputs := step.inputs.map chain.resolve
  filters := step.filters
  output := some (chain.label step)

/-- Adds the stage of a step. -/
def extend (chain : Chain) (step : Step) : Chain where
  graph := chain.graph.add (chain.stage step)
  line := if step.joins then chain.label step else chain.line
  latest := chain.label step
  index := chain.index + 1

def ofSteps (source : String) (steps : List Step) : Chain :=
  steps.foldl extend (start source)

/-- The label of the finished picture. -/
def outputPad : String := "v"

/-- The filters that make two frames into the fields of one. -/
def interlaceFilters (fps : Number) : List Filter :=
  [ { name := "fps", args := [.number fps] },
    { name := "setsar", args := [.text "1/1"] },
    { name := "tinterlace", params := [("mode", .text "interleave_top")] },
    { name := "setfield", args := [.text "tff"] } ]

theorem isSome_relabelled {graph : FilterGraph} (some : ¬graph.stages.isEmpty = true) :
    (graph.renameLastOutput outputPad).toOption.isSome = true := by
  rw [FilterGraph.renameLastOutput_of_nonempty some]
  rfl

/--
Ends the line in the output pad.  An interlaced format needs a stage for it, and an
empty line is copied; otherwise there is a last stage, which is relabelled.
-/
def terminate (chain : Chain) (fps : Number) (interlaced : Bool) : Chain :=
  let graph :=
    if interlaced then
      chain.graph.add
        { inputs := [chain.line], filters := interlaceFilters fps, output := some outputPad }
    else if empty : chain.graph.stages.isEmpty then
      chain.graph.add
        { inputs := [chain.line], filters := [{ name := "copy" }], output := some outputPad }
    else (chain.graph.renameLastOutput outputPad).toOption.get (isSome_relabelled empty)
  { chain with graph, line := outputPad }

end Chain

end Picture

end TestSignal
