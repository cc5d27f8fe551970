import TestSignal.Value

namespace TestSignal

/-!
# Filters, stages and the filter graph

A filter graph is data until it is printed: stages of filters between labelled
pads, each filter with positional and named options.  All quoting and escaping
of the graph's text is decided here, by the kind of an option's value: text shown
to the viewer, a template with fields that the engine evaluates, an expression
or path that is quoted as a whole, or a plain value.
-/

/-! ## Options -/

inductive OptionValue where
  /-- Text shown as it is. -/
  | literal (text : String)
  /-- Text whose percent fields the engine evaluates. -/
  | template (text : String)
  /-- An expression or a path. -/
  | quoted (text : String)
  /-- A value printed without quotes. -/
  | plain (value : Value)
  deriving Inhabited

namespace OptionValue

def text (content : String) : OptionValue := plain (.string content)

def int (value : Int) : OptionValue := plain (.int value)

def number (value : Number) : OptionValue := plain (.number value)

/-- Reads a backslash and the letter `n` after it as one line feed. -/
def mergeLineBreaks : List Char → List Char
  | '\x5c' :: 'n' :: rest => '\n' :: mergeLineBreaks rest
  | c :: rest => c :: mergeLineBreaks rest
  | [] => []

/--
A character of shown text.  A line feed becomes an escaped `n`; the backslash,
the apostrophe and the colon are escaped; a percent sign is doubled unless its
fields are to be expanded.
-/
def escapedChar (expand : Bool) (c : Char) : List Char :=
  if c == '\x5c' then ['\x5c', '\x5c']
  else if c == '\n' then ['\x5c', '\x5c', 'n']
  else if c == '\x27' then ['\x5c', '\x27']
  else if c == ':' then ['\x5c', ':']
  else if c == '%' && !expand then ['%', '%']
  else [c]

/-- Escapes shown text for the inside of a quoted option. -/
def escapeText (expand : Bool) (content : String) : String :=
  String.ofList ((mergeLineBreaks content.toList).flatMap (escapedChar expand))

/-- Puts a text between apostrophes, escaping those inside it and nothing else. -/
def quote (content : String) : String :=
  String.ofList
    ('\x27' :: content.toList.flatMap (fun c => if c == '\x27' then ['\x5c', c] else [c]) ++
      ['\x27'])

/-- A plain value: a flag as a digit, a number by its shortest text, else its text. -/
def plainText : Value → String
  | .bool flag => if flag then "1" else "0"
  | .number value => value.toShortText
  | other => other.asText

def render : OptionValue → String
  | literal content => "'" ++ escapeText false content ++ "'"
  | template content => "'" ++ escapeText true content ++ "'"
  | quoted content => quote content
  | plain value => plainText value

end OptionValue

/-! ## Filters -/

/-- A filter with positional options and named ones, in the order they are printed. -/
structure Filter where
  name : String
  args : List OptionValue := []
  params : List (String × OptionValue) := []

namespace Filter

def options (filter : Filter) : List String :=
  filter.args.map OptionValue.render ++
    filter.params.map fun param => param.1 ++ "=" ++ param.2.render

def render (filter : Filter) : String :=
  match filter.options with
  | [] => filter.name
  | options => filter.name ++ "=" ++ String.intercalate ":" options

end Filter

/-! ## Stages -/

/-- A linear chain of filters between labelled pads. -/
structure Stage where
  inputs : List String
  filters : List Filter
  output : Option String := none

namespace Stage

def padText (pad : String) : String := "[" ++ pad ++ "]"

/-- The output pad, when it has a label with at least one character. -/
def outputLabel? (stage : Stage) : Option String :=
  stage.output.filter fun label => !label.isEmpty

def render (stage : Stage) : String :=
  String.join (stage.inputs.map padText) ++
    String.intercalate "," (stage.filters.map Filter.render) ++
    (match stage.outputLabel? with
    | some label => padText label
    | none => "")

end Stage

/-! ## The graph -/

/-- Stages in order; a stage normally consumes the output of the one before it. -/
structure FilterGraph where
  stages : List Stage := []

namespace FilterGraph

def add (graph : FilterGraph) (stage : Stage) : FilterGraph :=
  { stages := graph.stages ++ [stage] }

def lastOutput (graph : FilterGraph) : Option String :=
  graph.stages.getLast?.bind Stage.output

/-- Relabels the output of the last stage, if there is one. -/
def renameLast (label : String) : List Stage → List Stage
  | [] => []
  | [last] => [{ last with output := some label }]
  | stage :: rest => stage :: renameLast label rest

/-- Relabels the output of a graph; an empty one has none. -/
def renameLastOutput (graph : FilterGraph) (label : String) : Except Fault FilterGraph :=
  if graph.stages.isEmpty then .error .emptyGraph
  else .ok { stages := renameLast label graph.stages }

theorem renameLastOutput_of_nonempty {graph : FilterGraph} (some : ¬graph.stages.isEmpty = true)
    (label : String) :
    graph.renameLastOutput label = .ok { stages := renameLast label graph.stages } :=
  if_neg some

/-- The labels of the output pads, in stage order. -/
def outputs (graph : FilterGraph) : List String :=
  graph.stages.filterMap Stage.outputLabel?

def size (graph : FilterGraph) : Nat := graph.stages.length

def render (graph : FilterGraph) : String :=
  String.intercalate ";" (graph.stages.map Stage.render)

end FilterGraph

end TestSignal
