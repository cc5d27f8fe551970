import TestSignal.Command
import TestSignal.Proofs.Catalog
import TestSignal.Proofs.Outcome

namespace TestSignal

namespace Command

/-!
# Reading the argument list

The engine reads its arguments two at a time, an option and its value.  An input is
named by `-i`, and the options in front of it, up to the input before, belong to it.
The inputs of a command are therefore the groups that its options fall into, and the
place of a group is the number by which pads and streams refer to the input.

The statements about commands use this reading and not the lists that the arguments
were put together from.
-/

/-! ## Options and groups -/

/-- The options of an argument list with their values; an argument left over is an output. -/
def readOptions : List String → List (String × String)
  | name :: value :: rest => (name, value) :: readOptions rest
  | _ => []

/-- The groups that end with an input, when some options of the first are read already. -/
def groupsFrom (group : List (String × String)) :
    List (String × String) → List (List (String × String))
  | [] => []
  | option :: rest =>
      if option.1 = "-i" then (group ++ [option]) :: groupsFrom [] rest
      else groupsFrom (group ++ [option]) rest

/-- The values of the options of a name. -/
def valuesIn (options : List (String × String)) (name : String) : List String :=
  (options.filter fun option => option.1 = name).map Prod.snd

/-- The options after the name of the program. -/
def options (command : Command) : List (String × String) := readOptions command.args.tail

def inputGroups (command : Command) : List (List (String × String)) :=
  groupsFrom [] command.options

def valuesOf (command : Command) (name : String) : List String := valuesIn command.options name

def Input.options (input : Input) : List (String × String) := readOptions input.args

theorem readOptions_append {args : List String} (paired : 2 ∣ args.length)
    (rest : List String) :
    readOptions (args ++ rest) = readOptions args ++ readOptions rest := by
  induction args using readOptions.induct with
  | case1 name value more ih =>
      have pairedMore : 2 ∣ more.length := by
        rw [List.length_cons, List.length_cons] at paired
        omega
      rw [List.cons_append, List.cons_append, readOptions, ih pairedMore, readOptions,
        List.cons_append]
  | case2 args short =>
      cases args with
      | nil => rfl
      | cons name more =>
          cases more with
          | nil => exact absurd (Nat.le_of_dvd Nat.one_pos paired) (by decide)
          | cons value more => exact absurd rfl (short name value more)

theorem valuesIn_append (options more : List (String × String)) (name : String) :
    valuesIn (options ++ more) name = valuesIn options name ++ valuesIn more name := by
  unfold valuesIn
  rw [List.filter_append, List.map_append]

theorem valuesIn_eq_nil {options : List (String × String)} {name : String}
    (absent : name ∉ options.map Prod.fst) : valuesIn options name = [] := by
  unfold valuesIn
  rw [List.map_eq_nil_iff, List.filter_eq_nil_iff]
  intro option member same
  apply absent
  rw [← of_decide_eq_true same]
  exact List.mem_map_of_mem member

/-- Options that name no input belong to the group of the input after them. -/
theorem groupsFrom_append {front : List (String × String)}
    (absent : "-i" ∉ front.map Prod.fst) (group rest : List (String × String)) :
    groupsFrom group (front ++ rest) = groupsFrom (group ++ front) rest := by
  induction front generalizing group with
  | nil => rw [List.nil_append, List.append_nil]
  | cons option more ih =>
      rw [List.map_cons, List.mem_cons, not_or] at absent
      rw [List.cons_append, groupsFrom, if_neg (fun same => absent.1 same.symm), ih absent.2,
        List.append_assoc]
      rfl

theorem groupsFrom_eq_nil {options : List (String × String)}
    (absent : "-i" ∉ options.map Prod.fst) (group : List (String × String)) :
    groupsFrom group options = [] := by
  have none := groupsFrom_append absent group []
  rw [List.append_nil] at none
  rw [none]
  rfl

/-! ## Inputs -/

/-- The options that only say how an input is read. -/
def inputModifiers : List String := ["-f", "-loop"]

/-- The arguments of an input are its modifiers and then the one option that names it. -/
structure Input.Whole (input : Input) : Prop where
  paired : 2 ∣ input.args.length
  named : ∃ front value, input.options = front ++ [("-i", value)] ∧
    ∀ option ∈ front, option.1 ∈ inputModifiers

theorem Input.whole_generated (description : String) : (Input.generated description).Whole where
  paired := ⟨2, rfl⟩
  named := by
    refine ⟨[("-f", "lavfi")], description, rfl, ?_⟩
    intro option member
    rw [List.mem_singleton.mp member]
    decide

theorem Input.whole_still (path : Path) : (Input.still path).Whole where
  paired := ⟨2, rfl⟩
  named := by
    refine ⟨[("-loop", "1")], path.toText, rfl, ?_⟩
    intro option member
    rw [List.mem_singleton.mp member]
    decide

theorem Input.whole_file (path : Path) : (Input.file path).Whole where
  paired := ⟨1, rfl⟩
  named := by
    refine ⟨[], path.toText, rfl, ?_⟩
    intro option member
    exact absurd member List.not_mem_nil

theorem Input.Whole.notMem_names {input : Input} (whole : input.Whole) {name : String}
    (different : name ≠ "-i") (other : name ∉ inputModifiers) :
    name ∉ input.options.map Prod.fst := by
  rcases whole.named with ⟨front, value, options, modifiers⟩
  rw [options, List.map_append, List.mem_append, not_or]
  constructor
  · intro member
    rcases List.mem_map.mp member with ⟨option, inFront, same⟩
    exact other (same ▸ modifiers option inFront)
  · intro member
    exact different (List.mem_singleton.mp member)

/-- The first group of an argument list that begins with an input is that input. -/
theorem Input.Whole.groupsFrom_append {input : Input} (whole : input.Whole)
    (rest : List (String × String)) :
    groupsFrom [] (input.options ++ rest) = input.options :: groupsFrom [] rest := by
  rcases whole.named with ⟨front, value, options, modifiers⟩
  have absent : "-i" ∉ front.map Prod.fst := by
    intro member
    rcases List.mem_map.mp member with ⟨option, inFront, same⟩
    exact absurd (same ▸ modifiers option inFront) (by decide)
  rw [options, List.append_assoc, Command.groupsFrom_append absent]
  rfl

variable {inputs : List Input}

theorem readOptions_inputs (whole : ∀ input ∈ inputs, input.Whole) (rest : List String) :
    readOptions (inputs.flatMap Input.args ++ rest) =
      inputs.flatMap Input.options ++ readOptions rest := by
  induction inputs with
  | nil => rfl
  | cons input more ih =>
      rw [List.flatMap_cons, List.append_assoc,
        readOptions_append (whole input List.mem_cons_self).paired,
        ih fun other inMore => whole other (List.mem_cons_of_mem _ inMore),
        List.flatMap_cons, List.append_assoc]
      rfl

/-- Inputs that stand in front are read back as groups, one for each in their order. -/
theorem groupsFrom_inputs (whole : ∀ input ∈ inputs, input.Whole)
    (rest : List (String × String)) :
    groupsFrom [] (inputs.flatMap Input.options ++ rest) =
      inputs.map Input.options ++ groupsFrom [] rest := by
  induction inputs with
  | nil => rfl
  | cons input more ih =>
      rw [List.flatMap_cons, List.append_assoc,
        (whole input List.mem_cons_self).groupsFrom_append,
        ih fun other inMore => whole other (List.mem_cons_of_mem _ inMore)]
      rfl

theorem valuesIn_inputs (whole : ∀ input ∈ inputs, input.Whole) {name : String}
    (different : name ≠ "-i") (other : name ∉ inputModifiers) :
    valuesIn (inputs.flatMap Input.options) name = [] := by
  apply valuesIn_eq_nil
  rw [List.map_flatMap, List.mem_flatMap]
  rintro ⟨input, member, among⟩
  exact (whole input member).notMem_names different other among

/-! ## The inputs of a command -/

theorem whole_backgroundInput (background : Background) (config : RawConfig) (format : Format)
    (settings : Settings) : (backgroundInput background config format settings).Whole := by
  unfold backgroundInput
  split
  · exact Input.whole_still _
  · exact Input.whole_still _
  · exact Input.whole_generated _

theorem whole_animationInput {animation : Value} {format : Format} {input : Input}
    (made : animationInput animation format = .ok (some input)) : input.Whole := by
  unfold animationInput at made
  split at made
  · split at made
    · rcases Outcome.bind_ok.mp made with ⟨size, _, rest⟩
      rw [← Option.some.inj (Outcome.pure_ok.mp rest)]
      exact Input.whole_generated _
    · rw [← Option.some.inj (Outcome.pure_ok.mp made)]
      exact Input.whole_generated _
    · exact absurd (Outcome.pure_ok.mp made) (Option.some_ne_none _).symm
  · exact absurd (Outcome.pure_ok.mp made) (Option.some_ne_none _).symm

theorem whole_logoInput {config : RawConfig} {settings : Settings} {input : Input}
    (shown : logoInput config settings = some input) : input.Whole := by
  unfold logoInput at shown
  split at shown
  · rw [← Option.some.inj shown]
    exact Input.whole_file _
  · exact absurd shown.symm (Option.some_ne_none _)

/-! ## The output of a command -/

/-- What follows the inputs: the graph, the mapped streams, the sound and the card. -/
def outputOptions (graph : FilterGraph) (format : Format) (audio : Audio.Plan)
    (audioIndex : Nat) (gain : Option String) : List (String × String) :=
  [("-filter_complex", graph.render), ("-map", "[v]"), ("-map", toString audioIndex ++ ":a"),
    ("-af", audioFilters gain), ("-c:a", "pcm_s16le"), ("-ar", toString Audio.sampleRate),
    ("-ac", toString audio.channels), ("-channel_layout", audio.layout), ("-vsync", "1")] ++
    readOptions format.outputArgs ++
    [("-audio_depth", "16"), ("-channels", toString audio.channels)]

/-- The device that ends the arguments is no option. -/
theorem readOptions_output (graph : FilterGraph) {format : Format} (known : format ∈ Format.all)
    (audio : Audio.Plan) (audioIndex : Nat) (gain : Option String) (device : String) :
    readOptions (["-filter_complex", graph.render] ++
        outputArgs format audio audioIndex gain device) =
      outputOptions graph format audio audioIndex gain := by
  have paired : ∀ format ∈ Format.all, 2 ∣ format.outputArgs.length := by decide
  have card := readOptions_append (paired format known)
    ["-audio_depth", "16", "-channels", toString audio.channels, device]
  unfold outputArgs outputOptions
  simp only [List.cons_append, List.nil_append, readOptions, card]

/-- The options of the card neither name an input nor choose a stream or a graph. -/
theorem card_options_apart {format : Format} (known : format ∈ Format.all) (name : String)
    (reserved : name ∈ ["-i", "-filter_complex", "-map", "-af"]) :
    name ∉ (readOptions format.outputArgs).map Prod.fst := by
  have apart : ∀ format ∈ Format.all, ∀ name ∈ ["-i", "-filter_complex", "-map", "-af"],
      name ∉ (readOptions format.outputArgs).map Prod.fst := by decide
  exact apart format known name reserved

end Command

end TestSignal
