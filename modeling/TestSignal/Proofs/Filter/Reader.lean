import Mathlib.Data.List.TakeWhile
import TestSignal.Proofs.Filter.Quoting

namespace TestSignal

/-!
# Reading a printed graph

The reader here knows the marks of a graph's text and nothing of how it was printed.  It
cuts the text at free semicolons into stages, takes the pads in front of a stage and the
one behind it, cuts what is between at free commas into filters, and the options of each
filter at free colons.  What it returns is the outline of a graph: names, pads and the
options as they are printed.

A graph is legible when its plain parts keep away from the marks: names, keys, pads and
values without quotes.  Shown texts and templates may hold anything, a quoted text anything
but a backslash.  The reader finds the outline of every legible graph, which is one lemma
for each level, from the options up.
-/

open Scan

/-! ## Outlines -/

structure FilterOutline where
  name : String
  options : List String
  deriving DecidableEq

structure StageOutline where
  inputs : List String
  filters : List FilterOutline
  output : Option String
  deriving DecidableEq

def Filter.outline (filter : Filter) : FilterOutline where
  name := filter.name
  options := filter.options

def Stage.outline (stage : Stage) : StageOutline where
  inputs := stage.inputs
  filters := stage.filters.map Filter.outline
  output := stage.outputLabel?

/-! ## The reader -/

namespace GraphText

/-- A name, and behind the first equals sign the options, if there is one. -/
def filter (rule : Rule) (text : List Char) : FilterOutline where
  name := String.ofList (text.takeWhile fun c => c != '=')
  options :=
    match text.dropWhile fun c => c != '=' with
    | [] => []
    | _ :: rest => (cutAt rule ':' .free rest).map String.ofList

/-- The pads in front of a text, and what follows them.  The flag tells whether a pad has
been opened. -/
def pads : Bool → List Char → Option (List (List Char) × List Char)
  | false, [] => some ([], [])
  | true, [] => none
  | false, c :: rest => if c = '[' then pads true rest else some ([], c :: rest)
  | true, c :: rest =>
      if c = ']' then (pads false rest).map fun found => ([] :: found.1, found.2)
      else (pads true rest).map fun found => (found.1.modifyHead (c :: ·), found.2)

def stage? (rule : Rule) (text : List Char) : Option StageOutline := do
  let (inputs, body) ← pads false text
  let outline (filters : List Char) (output : Option String) : StageOutline :=
    { inputs := inputs.map String.ofList
      filters := (cutAt rule ',' .free filters).map (filter rule)
      output }
  match cutAt rule '[' .free body with
  | [filters] => some (outline filters none)
  | [filters, last] =>
      if last.getLast? = some ']' then
        some (outline filters (some (String.ofList last.dropLast)))
      else none
  | _ => none

def graph? (rule : Rule) (text : String) : Option (List StageOutline) :=
  (cutAt rule ';' .free text.toList).mapM (stage? rule)

end GraphText

/-! ## Texts that avoid marks -/

def Avoids (marks : List Char) (text : String) : Prop := ∀ c ∈ text.toList, c ∉ marks

/-- The test of a fixed text, on its characters. -/
def keepsFrom (marks chars : List Char) : Bool := chars.all fun c => !marks.contains c

namespace Avoids

variable {marks : List Char}

theorem literal {chars : List Char} (plain : keepsFrom marks chars = true) :
    Avoids marks (String.ofList chars) := by
  intro c member marked
  rw [String.toList_ofList] at member
  have kept := List.all_eq_true.mp plain c member
  rw [List.contains_iff_mem.mpr marked] at kept
  cases kept

theorem append {left right : String} (first : Avoids marks left) (second : Avoids marks right) :
    Avoids marks (left ++ right) := by
  intro c member
  rw [String.toList_append] at member
  rcases List.mem_append.mp member with inFirst | inSecond
  · exact first c inFirst
  · exact second c inSecond

theorem weaken {fewer : List Char} {text : String} (avoids : Avoids marks text)
    (subset : fewer ⊆ marks) : Avoids fewer text :=
  fun c member marked => avoids c member (subset marked)

/-- A text whose characters all pass a test that no mark passes. -/
theorem ofTest {text : String} {test : Char → Bool}
    (others : (marks.all fun mark => !test mark) = true)
    (passes : ∀ c ∈ text.toList, test c = true) : Avoids marks text := by
  intro c member marked
  have fails := List.all_eq_true.mp others c marked
  rw [passes c member] at fails
  cases fails

theorem sealed {rule : Rule} {text : String}
    (avoids : Avoids ('\x27' :: '\x5c' :: marks) text) : Sealed rule marks text.toList :=
  Sealed.ofPlain avoids

end Avoids

/-! ## Legible graphs -/

/-- The marks that separate options, filters and stages, and those around pads. -/
def optionMarks : List Char := [':', ',', ';', '[', ']']

/-- The marks that a value without quotes keeps away from. -/
def valueMarks : List Char := '\x27' :: '\x5c' :: optionMarks

/-- The marks that a pad's label keeps away from. -/
def padMarks : List Char := ['\x27', '\x5c', ';', '[', ']']

def OptionValue.Legible : OptionValue → Prop
  | literal _ | template _ => True
  | quoted text => Avoids ['\x5c'] text
  | plain value => Avoids valueMarks (plainText value)

def LegibleParams (params : List (String × OptionValue)) : Prop :=
  ∀ param ∈ params, Avoids valueMarks param.1 ∧ param.2.Legible

structure Filter.Legible (filter : Filter) : Prop where
  named : filter.name ≠ ""
  name : Avoids ('=' :: valueMarks) filter.name
  args : ∀ value ∈ filter.args, value.Legible
  params : LegibleParams filter.params

structure Stage.Legible (stage : Stage) : Prop where
  inputs : ∀ pad ∈ stage.inputs, Avoids padMarks pad
  nonempty : stage.filters ≠ []
  filters : ∀ filter ∈ stage.filters, filter.Legible
  output : ∀ label ∈ stage.outputLabel?, Avoids padMarks label

structure FilterGraph.Legible (graph : FilterGraph) : Prop where
  nonempty : graph.stages ≠ []
  stages : ∀ stage ∈ graph.stages, stage.Legible

/-! ## Options -/

theorem OptionValue.Legible.sealed {value : OptionValue} (legible : value.Legible) :
    Sealed .escaping optionMarks value.render.toList := by
  have unmarked : '\x27' ∉ optionMarks := by decide
  cases value with
  | literal text =>
      have unescaped : (literal text).Unescaped := trivial
      exact (isOneToken_escaping rfl unescaped).sealed unmarked
  | template text =>
      have unescaped : (template text).Unescaped := trivial
      exact (isOneToken_escaping rfl unescaped).sealed unmarked
  | quoted text =>
      have unescaped : (quoted text).Unescaped := fun member =>
        legible '\x5c' member List.mem_cons_self
      exact (isOneToken_escaping rfl unescaped).sealed unmarked
  | plain value => exact Avoids.sealed legible

theorem Filter.Legible.sealed_option {filter : Filter} (legible : filter.Legible)
    {option : String} (member : option ∈ filter.options) :
    Sealed .escaping optionMarks option.toList := by
  rcases List.mem_append.mp member with positional | keyed
  · rcases List.mem_map.mp positional with ⟨value, isArg, rfl⟩
    exact (legible.args value isArg).sealed
  · rcases List.mem_map.mp keyed with ⟨param, isParam, rfl⟩
    rcases legible.params param isParam with ⟨plainKey, value⟩
    have key : Sealed .escaping optionMarks param.1.toList := plainKey.sealed
    have equals : Sealed .escaping optionMarks ['='] := .singleton (by decide) (by decide)
    rw [String.toList_append, String.toList_append]
    exact (key.append equals).append value.sealed

/-! ## Filters -/

theorem Filter.toList_render (filter : Filter) :
    filter.render.toList =
      if filter.options = [] then filter.name.toList
      else filter.name.toList ++ '=' :: [':'].intercalate (filter.options.map String.toList) := by
  unfold Filter.render
  cases options : filter.options with
  | nil => rfl
  | cons option rest =>
      dsimp only
      rw [String.toList_append, String.toList_append, String.toList_intercalate,
        if_neg (List.cons_ne_nil option rest), List.append_assoc]
      rfl

namespace Filter.Legible

variable {filter : Filter}

theorem sealed (legible : filter.Legible) :
    Sealed .escaping [',', ';', '[', ']'] filter.render.toList := by
  have name : Sealed .escaping [',', ';', '[', ']'] filter.name.toList :=
    (legible.name.weaken (by decide)).sealed
  rw [toList_render]
  split
  case isTrue => exact name
  case isFalse =>
    have equals : Sealed .escaping [',', ';', '[', ']'] ['='] :=
      .singleton (by decide) (by decide)
    refine name.append (equals.append (Sealed.intercalate (.singleton (by decide) (by decide)) ?_))
    intro piece member
    rcases List.mem_map.mp member with ⟨option, isOption, rfl⟩
    exact (legible.sealed_option isOption).weaken (by decide)

theorem read (legible : filter.Legible) :
    GraphText.filter .escaping filter.render.toList = filter.outline := by
  have plain : ∀ c ∈ filter.name.toList, (c != '=') = true := by
    intro c member
    exact bne_iff_ne.mpr (List.ne_of_not_mem_cons (legible.name c member))
  have pieces : ∀ piece ∈ filter.options.map String.toList, Sealed .escaping optionMarks piece := by
    intro piece member
    rcases List.mem_map.mp member with ⟨option, isOption, rfl⟩
    exact legible.sealed_option isOption
  unfold GraphText.filter outline
  rw [toList_render, FilterOutline.mk.injEq]
  split
  case isTrue none =>
    rw [List.takeWhile_eq_self_iff.mpr plain, List.dropWhile_eq_nil_iff.mpr plain,
      String.ofList_toList, none]
    exact ⟨rfl, rfl⟩
  case isFalse some =>
    have marked : ('=' != '=') = false := rfl
    rw [List.takeWhile_append_of_pos plain, List.dropWhile_append_of_pos plain,
      List.takeWhile_cons_of_neg (by decide), List.dropWhile_cons_of_neg (by decide),
      List.append_nil, String.ofList_toList]
    refine ⟨rfl, ?_⟩
    have nonempty : filter.options.map String.toList ≠ [] := some ∘ List.map_eq_nil_iff.mp
    dsimp only
    rw [cutAt_intercalate (by decide) nonempty pieces, List.map_map]
    exact List.map_id'' (fun option => String.ofList_toList) _

end Filter.Legible

/-! ## Pads -/

/-- A pad as it is printed. -/
def padChars (label : String) : List Char := '[' :: label.toList ++ [']']

theorem toList_padText (label : String) : (Stage.padText label).toList = padChars label := by
  unfold Stage.padText
  rw [String.toList_append, String.toList_append]
  rfl

theorem sealed_padChars {label : String} (avoids : Avoids padMarks label) :
    Sealed .escaping [';'] (padChars label) := by
  have inner : Sealed .escaping [';'] label.toList := (avoids.weaken (by decide)).sealed
  have opening : Sealed .escaping [';'] ['['] := .singleton (by decide) (by decide)
  have closing : Sealed .escaping [';'] [']'] := .singleton (by decide) (by decide)
  exact (opening.append inner).append closing

theorem pads_closing {label : List Char} (inside : ']' ∉ label) (rest : List Char) :
    GraphText.pads true (label ++ ']' :: rest) =
      (GraphText.pads false rest).map fun found => (label :: found.1, found.2) := by
  induction label with
  | nil => exact if_pos rfl
  | cons c label inductionHypothesis =>
      rw [List.cons_append, GraphText.pads, if_neg (List.ne_of_not_mem_cons inside).symm,
        inductionHypothesis (List.not_mem_of_not_mem_cons inside), Option.map_map]
      rfl

/-- All pads in front are found, and what follows them is left as it is. -/
theorem pads_flatMap {labels : List String} (avoid : ∀ label ∈ labels, Avoids padMarks label)
    {c : Char} (body : c ≠ '[') (rest : List Char) :
    GraphText.pads false (labels.flatMap padChars ++ c :: rest) =
      some (labels.map String.toList, c :: rest) := by
  induction labels with
  | nil => exact if_neg body
  | cons label labels inductionHypothesis =>
      rcases List.forall_mem_cons.mp avoid with ⟨first, others⟩
      have inside : ']' ∉ label.toList := fun member => first ']' member (by decide)
      have opened : GraphText.pads false
          ((label :: labels).flatMap padChars ++ c :: rest) =
          GraphText.pads true (label.toList ++ ']' :: (labels.flatMap padChars ++ c :: rest)) := by
        rw [List.flatMap_cons, List.append_assoc, padChars, List.append_assoc]
        exact if_pos rfl
      rw [opened, pads_closing inside, inductionHypothesis others]
      rfl

/-! ## Stages -/

namespace Stage

variable {stage : Stage}

/-- The filters of a stage as they are printed. -/
def bodyChars (stage : Stage) : List Char :=
  [','].intercalate (stage.filters.map fun filter => filter.render.toList)

theorem toList_render (stage : Stage) :
    stage.render.toList =
      stage.inputs.flatMap padChars ++ (stage.bodyChars ++ stage.outputLabel?.elim [] padChars) := by
  have front : (String.join (stage.inputs.map padText)).toList = stage.inputs.flatMap padChars := by
    rw [String.toList_join, List.flatMap_map]
    exact congrArg stage.inputs.flatMap (funext toList_padText)
  have body : (String.intercalate "," (stage.filters.map Filter.render)).toList =
      stage.bodyChars := by
    rw [String.toList_intercalate, List.map_map]
    rfl
  unfold render
  rw [String.toList_append, String.toList_append, front, body, List.append_assoc]
  cases stage.outputLabel? with
  | none => rfl
  | some label => rw [toList_padText]; rfl

namespace Legible

/-- The filters begin with a name, so no pad is read into them. -/
theorem bodyChars_eq_cons (legible : stage.Legible) :
    ∃ c rest, stage.bodyChars = c :: rest ∧ c ≠ '[' := by
  rcases List.exists_cons_of_ne_nil legible.nonempty with ⟨first, more, filters⟩
  have isFirst : first ∈ stage.filters := by
    rw [filters]
    exact List.mem_cons_self
  have named := legible.filters first isFirst
  rcases List.exists_cons_of_ne_nil (named.named ∘ String.toList_eq_nil_iff.mp) with
    ⟨c, name, characters⟩
  have plain : c ≠ '[' := by
    rintro rfl
    have member : '[' ∈ first.name.toList := by
      rw [characters]
      exact List.mem_cons_self
    exact named.name '[' member (by decide)
  have start : ∃ rest, first.render.toList = c :: rest := by
    rw [Filter.toList_render, characters]
    split
    · exact ⟨name, rfl⟩
    · exact ⟨_, rfl⟩
  rcases start with ⟨rest, begins⟩
  refine ⟨c, ?_⟩
  unfold bodyChars
  rw [filters, List.map_cons, begins]
  cases more with
  | nil => exact ⟨rest, List.intercalate_singleton, plain⟩
  | cons second others => exact ⟨_, List.intercalate_cons_cons, plain⟩

theorem sealed_body (legible : stage.Legible) :
    Sealed .escaping [';', '[', ']'] stage.bodyChars := by
  refine Sealed.intercalate (.singleton (by decide) (by decide)) fun piece member => ?_
  rcases List.mem_map.mp member with ⟨filter, isFilter, rfl⟩
  exact (legible.filters filter isFilter).sealed.weaken (by decide)

theorem sealed (legible : stage.Legible) : Sealed .escaping [';'] stage.render.toList := by
  have front : Sealed .escaping [';'] (stage.inputs.flatMap padChars) := by
    refine Sealed.flatten fun piece member => ?_
    rcases List.mem_map.mp member with ⟨pad, isInput, rfl⟩
    exact sealed_padChars (legible.inputs pad isInput)
  have body : Sealed .escaping [';'] stage.bodyChars := legible.sealed_body.weaken (by decide)
  rw [toList_render]
  refine front.append (body.append ?_)
  cases output : stage.outputLabel? with
  | none => exact .nil
  | some label => exact sealed_padChars (legible.output label output)

theorem read_body (legible : stage.Legible) :
    (cutAt .escaping ',' .free stage.bodyChars).map (GraphText.filter .escaping) =
      stage.filters.map Filter.outline := by
  have pieces : ∀ piece ∈ stage.filters.map fun filter => filter.render.toList,
      Sealed .escaping [',', ';', '[', ']'] piece := by
    intro piece member
    rcases List.mem_map.mp member with ⟨filter, isFilter, rfl⟩
    exact (legible.filters filter isFilter).sealed
  have nonempty : (stage.filters.map fun filter => filter.render.toList) ≠ [] :=
    legible.nonempty ∘ List.map_eq_nil_iff.mp
  unfold bodyChars
  rw [cutAt_intercalate (by decide) nonempty pieces, List.map_map]
  exact List.map_congr_left fun filter isFilter => (legible.filters filter isFilter).read

theorem read (legible : stage.Legible) :
    GraphText.stage? .escaping stage.render.toList = some stage.outline := by
  rcases legible.bodyChars_eq_cons with ⟨c, rest, begins, plain⟩
  have inputs : (stage.inputs.map String.toList).map String.ofList = stage.inputs := by
    rw [List.map_map]
    exact List.map_id'' (fun pad => String.ofList_toList) _
  have body := legible.sealed_body
  have found : GraphText.pads false stage.render.toList = some (stage.inputs.map String.toList,
      stage.bodyChars ++ stage.outputLabel?.elim [] padChars) := by
    rw [toList_render, begins]
    exact pads_flatMap legible.inputs plain _
  unfold GraphText.stage? outline
  rw [found]
  dsimp only [Option.bind_eq_bind, Option.bind_some]
  rw [inputs]
  cases output : stage.outputLabel? with
  | none =>
      dsimp only [Option.elim_none]
      rw [List.append_nil, body.cutAt_alone (by decide), ← legible.read_body]
  | some label =>
      have inner : Sealed .escaping ['['] (label.toList ++ [']']) := by
        have avoids := legible.output label output
        have plainLabel : Sealed .escaping ['['] label.toList :=
          (avoids.weaken (by decide)).sealed
        exact plainLabel.append (.singleton (by decide) (by decide))
      dsimp only [Option.elim_some, padChars]
      rw [List.cons_append, body.cutAt_before (by decide), inner.cutAt_alone (by decide),
        ← legible.read_body]
      dsimp only
      rw [if_pos List.getLast?_concat, List.dropLast_concat, String.ofList_toList]

end Legible

end Stage

/-! ## Graphs -/

theorem mapM_eq_some_map {α β : Type} {read : α → Option β} {result : α → β} {items : List α}
    (each : ∀ item ∈ items, read item = some (result item)) :
    items.mapM read = some (items.map result) := by
  induction items with
  | nil => rfl
  | cons item rest inductionHypothesis =>
      rcases List.forall_mem_cons.mp each with ⟨first, others⟩
      rw [List.mapM_cons, first, inductionHypothesis others]
      rfl

/-- The reader finds the stages of a legible graph, their filters and their options. -/
theorem FilterGraph.Legible.read {graph : FilterGraph} (legible : graph.Legible) :
    GraphText.graph? .escaping graph.render = some (graph.stages.map Stage.outline) := by
  have pieces : ∀ piece ∈ graph.stages.map fun stage => stage.render.toList,
      Sealed .escaping [';'] piece := by
    intro piece member
    rcases List.mem_map.mp member with ⟨stage, isStage, rfl⟩
    exact (legible.stages stage isStage).sealed
  have nonempty : (graph.stages.map fun stage => stage.render.toList) ≠ [] :=
    legible.nonempty ∘ List.map_eq_nil_iff.mp
  have printed : graph.render.toList =
      [';'].intercalate (graph.stages.map fun stage => stage.render.toList) := by
    unfold render
    rw [String.toList_intercalate, List.map_map]
    rfl
  unfold GraphText.graph?
  rw [printed, cutAt_intercalate List.mem_cons_self nonempty pieces, List.mapM_map]
  exact mapM_eq_some_map fun stage isStage => (legible.stages stage isStage).read

/-- Marks between apostrophes separate nothing. -/
example :
    GraphText.graph? .escaping "[0:v]fps=50[a];[a][1:v]overlay=x='if(n,1,2)':y=0,negate[v]" =
      some
        [ { inputs := ["0:v"], filters := [{ name := "fps", options := ["50"] }], output := "a" },
          { inputs := ["a", "1:v"]
            filters :=
              [ { name := "overlay", options := ["x='if(n,1,2)'", "y=0"] },
                { name := "negate", options := [] } ]
            output := "v" } ] := by
  decide +kernel

end TestSignal
