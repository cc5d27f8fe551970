import TestSignal.Proofs.Audio.Source
import TestSignal.Proofs.Overlay.Status

namespace TestSignal

open Outcome

/-!
# The channels in sound and status

A channel is active in the map of the plan.  Its expression is then not the silence, the
output is wide enough to carry it, and the status block names it: on the line of the tone if
nothing else is asked of it, and on the line of each role that it has.  What a line names is
read off its text.

A line lists labels with commas between them, behind a title in which no channel is named.
So what is read are the numbers of the labels, and these are a part of the numbers of the
output channels, in their order.
-/

namespace Overlay

/-! ## The channels that a text names -/

/-- The number of the channel whose label stands at the front of a text. -/
def channelAtFront? : List Char → Option Nat
  | 'C' :: 'h' :: rest =>
      let digits := rest.takeWhile Char.isDigit
      if digits.isEmpty then none else some (Nat.ofDigitChars 10 digits 0)
  | _ => none

/-- The numbers of the channels that are named in a text, in the order of the text. -/
def channelsIn : List Char → List Nat
  | [] => []
  | c :: rest =>
      match channelAtFront? (c :: rest) with
      | some number => number :: channelsIn rest
      | none => channelsIn rest

def namedChannels (line : String) : List Nat := channelsIn line.toList

/-- No label begins with another letter. -/
theorem channelsIn_cons {c : Char} (other : c ≠ 'C') (rest : List Char) :
    channelsIn (c :: rest) = channelsIn rest := by
  have none : channelAtFront? (c :: rest) = none := by
    unfold channelAtFront?
    split
    · rename_i front
      exact absurd (List.cons.inj front).1 other
    · rfl
  rw [channelsIn, none]

theorem channelsIn_append {front : List Char} (free : 'C' ∉ front) (rest : List Char) :
    channelsIn (front ++ rest) = channelsIn rest := by
  induction front with
  | nil => rfl
  | cons c front inductionHypothesis =>
      rw [List.mem_cons, not_or] at free
      rw [List.cons_append, channelsIn_cons (Ne.symm free.1), inductionHypothesis free.2]

/-- A label names its channel, when no further digit follows. -/
theorem channelsIn_label (number : Nat) {rest : List Char}
    (ends : ∀ c ∈ rest.head?, c.isDigit = false) :
    channelsIn (("Ch" ++ toString number).toList ++ rest) = number :: channelsIn rest := by
  have digits : ∀ c ∈ Nat.toDigits 10 number, c.isDigit = true := fun c member =>
    Nat.isDigit_of_mem_toDigits (by decide) (by decide) member
  have stops : rest.takeWhile Char.isDigit = [] := by
    cases rest with
    | nil => rfl
    | cons c rest =>
        apply List.takeWhile_cons_of_neg
        rw [ends c rfl]
        exact Bool.false_ne_true
  have found : channelAtFront? ('C' :: 'h' :: (Nat.toDigits 10 number ++ rest)) = some number := by
    rw [channelAtFront?, List.takeWhile_append_of_pos digits, stops, List.append_nil,
      if_neg (Nat.toDigits_ne_nil ∘ List.isEmpty_iff.mp), Nat.ofDigitChars_ten_toDigits]
  have free : 'C' ∉ 'h' :: Nat.toDigits 10 number := by
    rw [List.mem_cons, not_or]
    exact ⟨by decide, fun member => absurd (digits 'C' member) (by decide)⟩
  have written : ("Ch" ++ toString number).toList ++ rest =
      'C' :: 'h' :: (Nat.toDigits 10 number ++ rest) := by
    rw [String.toList_append, Nat.toString_eq_repr, Nat.toList_repr]
    rfl
  have inside := channelsIn_append free rest
  rw [written, channelsIn, found]
  exact congrArg (number :: ·) inside

/-- A list of labels names the channels of the labels. -/
theorem namedChannels_intercalate (numbers : List Nat) :
    namedChannels (String.intercalate ", " (numbers.map fun number => "Ch" ++ toString number)) =
      numbers := by
  unfold namedChannels
  induction numbers with
  | nil => rfl
  | cons first rest inductionHypothesis =>
      cases rest with
      | nil =>
          have ends : ∀ c ∈ ([] : List Char).head?, c.isDigit = false := nofun
          have alone := channelsIn_label first ends
          rw [List.append_nil] at alone
          rw [List.map_singleton, String.intercalate_singleton, alone]
          rfl
      | cons second more =>
          rw [List.map_cons, List.map_cons, String.intercalate_cons_cons, String.append_assoc,
            String.toList_append, channelsIn_label, String.toList_append,
            channelsIn_append (by decide)]
          · exact congrArg (first :: ·) inductionHypothesis
          · rw [String.toList_append]
            rintro c ⟨⟩
            rfl

/-! ## The channels of a line -/

variable {plan : Audio.Plan} {channels : List OutputChannel} {role : Nat → Bool} {line : String}

/-- A line names the active channels with a role and no others, each once and in order. -/
structure Lists (line : String) (plan : Audio.Plan) (role : Nat → Bool) : Prop where
  named_iff : ∀ number, number ∈ namedChannels line ↔
    ∃ index, number = index + 1 ∧ plan.channelMap.getD index false = true ∧ role index = true
  ascending : (namedChannels line).Pairwise (· < ·)

/-- The numbers of the output channels with a role. -/
def channelNumbers (plan : Audio.Plan) (role : Nat → Bool) : List Nat :=
  ((activeOutputs plan).filter role).map (· + 1)

/-- The labels have the numbers of the channels that the plan describes. -/
theorem channelLabels_eq (read : outputChannels plan = .ok channels)
    (role : OutputChannel → Bool) :
    channelLabels channels role =
      (channelNumbers plan fun index => role (channelOf plan index)).map fun number =>
        "Ch" ++ toString number := by
  rw [channelLabels, outputChannels_ok read, List.filter_map, List.map_map, channelNumbers,
    List.map_map]
  rfl

/-- A line with the numbers of the output channels names all active ones, when the output is
wide enough. -/
theorem Lists.ofNamed (wide : ∀ index, plan.channelMap.getD index false = true →
      index < plan.channels) (named : namedChannels line = channelNumbers plan role) :
    Lists line plan role where
  named_iff number := by
    rw [named, channelNumbers, List.mem_map]
    constructor
    · rintro ⟨index, member, rfl⟩
      rcases List.mem_filter.mp member with ⟨output, asked⟩
      exact ⟨index, rfl, (mem_activeOutputs.mp output).2, asked⟩
    · rintro ⟨index, rfl, active, asked⟩
      refine ⟨index, List.mem_filter.mpr ⟨mem_activeOutputs.mpr ⟨?_, active⟩, asked⟩, rfl⟩
      exact Nat.lt_min.mpr ⟨wide index active, Audio.lt_of_getD active⟩
  ascending := by
    rw [named, channelNumbers, activeOutputs]
    exact ((List.pairwise_lt_range.filter _).filter _).map _ fun _ _ less =>
      Nat.succ_lt_succ less

theorem Lists.named_succ_iff (lists : Lists line plan role) (index : Nat) :
    index + 1 ∈ namedChannels line ↔
      plan.channelMap.getD index false = true ∧ role index = true := by
  rw [lists.named_iff]
  constructor
  · rintro ⟨found, same, asked⟩
    rw [Nat.succ.inj same]
    exact asked
  · exact fun asked => ⟨index, rfl, asked⟩

/-- The titles of the roles. -/
def roleTitles : List String := ["400Hz", "Cycle ID", "1-frame Flash"]

/-- A title names no channel, also the one with a capital letter. -/
theorem channelsIn_title {title : String} (known : title ∈ roleTitles) (rest : List Char) :
    channelsIn (("▌ " ++ title ++ ": ").toList ++ rest) = channelsIn rest := by
  simp only [roleTitles, List.mem_cons, List.not_mem_nil, or_false] at known
  rcases known with rfl | rfl | rfl <;> rfl

theorem namedChannels_roleLine {title : String} (known : title ∈ roleTitles)
    (read : outputChannels plan = .ok channels) (role : OutputChannel → Bool) :
    namedChannels (roleLine title channels role) =
      channelNumbers plan fun index => role (channelOf plan index) := by
  have listed := namedChannels_intercalate
    (channelNumbers plan fun index => role (channelOf plan index))
  unfold namedChannels roleLine at *
  rw [String.toList_append, channelsIn_title known, joinedOr, channelLabels_eq read]
  split
  case isFalse => exact listed
  case isTrue none =>
      -- The mark names no channel, and there is none.
      rw [List.map_eq_nil_iff.mp (List.isEmpty_iff.mp none)]
      rfl

/-- Frequency and level are shown without capital letters that a label begins with. -/
theorem free_measures (frequency : Int) {level : Option String}
    (shown : ∀ text ∈ level, ∃ number, IsNumeral number.toList ∧ text = number ++ " dBFS") :
    'C' ∉ (measures frequency level).toList := by
  have free {text : String} (numeral : IsNumeral text.toList) : 'C' ∉ text.toList :=
    fun member => absurd (numeral 'C' member) (by decide)
  have tuned := free (IsNumeral.toString_int frequency)
  cases level with
  | none =>
      rw [measures, String.toList_append, List.mem_append, not_or]
      exact ⟨tuned, by decide⟩
  | some label =>
      rcases shown label rfl with ⟨number, numeral, rfl⟩
      rw [measures, String.toList_append, String.toList_append, String.toList_append,
        List.mem_append, List.mem_append, List.mem_append]
      simp only [not_or]
      exact ⟨⟨tuned, by decide⟩, free numeral, by decide⟩

theorem namedChannels_toneLine (read : outputChannels plan = .ok channels) {frequency : Int}
    {level : Option String} (free : 'C' ∉ (measures frequency level).toList) :
    namedChannels (toneLine channels frequency level) =
      channelNumbers plan fun index => (channelOf plan index).isPlain := by
  have listed := namedChannels_intercalate
    (channelNumbers plan fun index => (channelOf plan index).isPlain)
  unfold namedChannels at *
  rw [toneLine_eq, String.toList_append, channelsIn_append (by decide), String.toList_append,
    channelsIn_append free, channelLabels_eq read]
  split
  case isFalse =>
      rw [String.toList_append, channelsIn_append (by decide)]
      exact listed
  case isTrue none =>
      rw [List.map_eq_nil_iff.mp (List.isEmpty_iff.mp none)]
      rfl

/-! ## The block -/

/-- The lines of a status block: perhaps one about the format, one about the tone and one about
each role. -/
structure StatusBlock where
  heading : List String
  tone : String
  forced : String
  cycle : String
  flash : String

namespace StatusBlock

def channelLines (block : StatusBlock) : List String :=
  [block.tone, block.forced, block.cycle, block.flash]

def lines (block : StatusBlock) : List String := block.heading ++ block.channelLines

/-- The lines of a block name the channels of a plan under their titles, and together all
active ones. -/
structure Tells (block : StatusBlock) (plan : Audio.Plan) : Prop where
  heading_length : block.heading.length ≤ 1
  tone_title : ∃ frequency, Number.roundHalfUp plan.frequency = .ok frequency ∧
    ("▌ " ++ toString frequency ++ " Hz").toList <+: block.tone.toList
  forced_title : "▌ 400Hz: ".toList <+: block.forced.toList
  cycle_title : "▌ Cycle ID: ".toList <+: block.cycle.toList
  flash_title : "▌ 1-frame Flash: ".toList <+: block.flash.toList
  tone_lists : Lists block.tone plan fun index =>
    !plan.flash.getD index false && !plan.force400.getD index false
  forced_lists : Lists block.forced plan fun index => plan.force400.getD index false
  cycle_lists : Lists block.cycle plan fun index => plan.idCycle.getD index false
  flash_lists : Lists block.flash plan fun index => plan.flash.getD index false
  named_iff_active : ∀ index,
    (∃ line ∈ block.channelLines, index + 1 ∈ namedChannels line) ↔
      plan.channelMap.getD index false = true

end StatusBlock

theorem toList_isPrefix_append (front rest : String) : front.toList <+: (front ++ rest).toList := by
  rw [String.toList_append]
  exact List.prefix_append _ _

theorem title_roleLine (title : String) (channels : List OutputChannel)
    (role : OutputChannel → Bool) :
    ("▌ " ++ title ++ ": ").toList <+: (roleLine title channels role).toList :=
  toList_isPrefix_append _ _

theorem title_toneLine (channels : List OutputChannel) (frequency : Int)
    (level : Option String) :
    ("▌ " ++ toString frequency ++ " Hz").toList <+: (toneLine channels frequency level).toList :=
  (toList_isPrefix_append _ _).trans (toList_isPrefix_append _ _)

/-- An active channel has a role, or carries the tone. -/
theorem StatusBlock.named_iff_active {block : StatusBlock}
    (tone : Lists block.tone plan fun index => (channelOf plan index).isPlain)
    (forced : Lists block.forced plan fun index => plan.force400.getD index false)
    (cycle : Lists block.cycle plan fun index => plan.idCycle.getD index false)
    (flash : Lists block.flash plan fun index => plan.flash.getD index false) (index : Nat) :
    (∃ line ∈ block.channelLines, index + 1 ∈ namedChannels line) ↔
      plan.channelMap.getD index false = true := by
  constructor
  · rintro ⟨line, member, named⟩
    simp only [channelLines, List.mem_cons, List.not_mem_nil, or_false] at member
    rcases member with rfl | rfl | rfl | rfl
    · exact ((tone.named_succ_iff index).mp named).1
    · exact ((forced.named_succ_iff index).mp named).1
    · exact ((cycle.named_succ_iff index).mp named).1
    · exact ((flash.named_succ_iff index).mp named).1
  · intro active
    by_cases flashes : plan.flash.getD index false = true
    · exact ⟨block.flash, by simp [channelLines],
        (flash.named_succ_iff index).mpr ⟨active, flashes⟩⟩
    · by_cases low : plan.force400.getD index false = true
      · exact ⟨block.forced, by simp [channelLines],
          (forced.named_succ_iff index).mpr ⟨active, low⟩⟩
      · have plain : (channelOf plan index).isPlain = true := by
          rw [OutputChannel.isPlain, channelOf, Bool.eq_false_iff.mpr flashes,
            Bool.eq_false_iff.mpr low]
          rfl
        exact ⟨block.tone, List.mem_cons_self, (tone.named_succ_iff index).mpr ⟨active, plain⟩⟩

/-- When the output is wide enough, the block tells of every active channel. -/
theorem exists_block (wide : ∀ index, plan.channelMap.getD index false = true →
      index < plan.channels) {formatId : String} {level : Value} {lines : List String}
    (made : statusLines formatId plan level = .ok lines) :
    ∃ block : StatusBlock, lines = block.lines ∧ block.Tells plan := by
  rcases statusLines_eq made with
    ⟨channels, heading, frequency, label, read, short, rounded, labelled, rfl⟩
  let block : StatusBlock :=
    { heading
      tone := toneLine channels frequency label
      forced := roleLine "400Hz" channels OutputChannel.force400
      cycle := roleLine "Cycle ID" channels OutputChannel.cycle
      flash := roleLine "1-frame Flash" channels OutputChannel.flash }
  have free := free_measures frequency (exists_numeral_of_levelLabel labelled)
  have tone : Lists block.tone plan fun index => (channelOf plan index).isPlain :=
    .ofNamed wide (namedChannels_toneLine read free)
  have forced : Lists block.forced plan fun index => plan.force400.getD index false :=
    .ofNamed wide (namedChannels_roleLine (by decide) read _)
  have cycle : Lists block.cycle plan fun index => plan.idCycle.getD index false :=
    .ofNamed wide (namedChannels_roleLine (by decide) read _)
  have flash : Lists block.flash plan fun index => plan.flash.getD index false :=
    .ofNamed wide (namedChannels_roleLine (by decide) read _)
  refine ⟨block, rfl, ?_⟩
  exact
    { heading_length := short
      tone_title := ⟨frequency, rounded, title_toneLine channels frequency label⟩
      forced_title := title_roleLine "400Hz" channels _
      cycle_title := title_roleLine "Cycle ID" channels _
      flash_title := title_roleLine "1-frame Flash" channels _
      tone_lists := tone, forced_lists := forced, cycle_lists := cycle, flash_lists := flash
      named_iff_active := StatusBlock.named_iff_active tone forced cycle flash }

/--
No active channel is lost.  Whatever the lists are, an active channel is one of those that leave
the program, its expression is not the silence, and the status block names it where its roles
say.  A channel that is not active carries the silence and is named nowhere.
-/
theorem channels_agree {channelMap idCycle flash force400 frequency : Value} {fps : Number}
    {plan : Audio.Plan}
    (made : Audio.synthesize channelMap idCycle flash force400 frequency fps = .ok plan) :
    (∀ index, plan.channelMap.getD index false = true → index < plan.channels) ∧
      plan.expressions.length = channelSlots ∧
      (∀ index e, plan.expressions[index]? = some e →
        (e.escapedText = Audio.silence.escapedText ↔
          plan.channelMap.getD index false = false)) ∧
      ∀ formatId level lines, statusLines formatId plan level = .ok lines →
        ∃ block : StatusBlock, lines = block.lines ∧ block.Tells plan := by
  have parts := Audio.madeFrom_synthesize made
  have wide : ∀ index, plan.channelMap.getD index false = true → index < plan.channels :=
    fun _ active => parts.lt_channels active
  exact ⟨wide, parts.length_expressions, fun _ _ placed => parts.silent_iff placed,
    fun _ _ _ told => exists_block wide told⟩

/-- The third channel is the only active one, and flashes with the identification; a flash is
asked of the first one too. -/
theorem channels_agree_showcase :
    ∃ plan lines block, Audio.synthesize (.list [.bool false, .int 0, .string "on"])
        (.list [.null, .null, .bool true]) (.list [.bool true, .null, .bool true]) .null .null
        (.int 50) = .ok plan ∧
      statusLines "1080i50" plan (.string "-6 dBFS") = .ok lines ∧
      lines = StatusBlock.lines block ∧ 2 < plan.channels ∧
      3 ∈ namedChannels block.flash ∧ 3 ∈ namedChannels block.cycle ∧
      3 ∉ namedChannels block.tone ∧ 1 ∉ namedChannels block.flash := by
  have finishes : (Audio.synthesize (.list [.bool false, .int 0, .string "on"])
      (.list [.null, .null, .bool true]) (.list [.bool true, .null, .bool true]) .null .null
      (.int 50)).toOption.any (fun plan =>
        plan.channelMap = [false, false, true, false, false, false, false, false] ∧
          plan.flash = [true, false, true, false, false, false, false, false] ∧
          plan.idCycle = [false, false, true, false, false, false, false, false] ∧
          (statusLines "1080i50" plan (.string "-6 dBFS")).isOk = true) = true := by
    decide +kernel
  rcases any_ok.mp finishes with ⟨plan, made, known⟩
  rcases of_decide_eq_true known with ⟨map, flash, cycle, told⟩
  rcases exists_ok told with ⟨lines, told⟩
  rcases channels_agree made with ⟨wide, _, _, tells⟩
  rcases tells _ _ _ told with ⟨block, same, tells⟩
  have active : plan.channelMap.getD 2 false = true := by rw [map]; rfl
  refine ⟨plan, lines, block, made, told, same, wide 2 active, ?_, ?_, ?_, ?_⟩
  · exact (tells.flash_lists.named_succ_iff 2).mpr ⟨active, by rw [flash]; rfl⟩
  · exact (tells.cycle_lists.named_succ_iff 2).mpr ⟨active, by rw [cycle]; rfl⟩
  · rw [tells.tone_lists.named_succ_iff 2, flash]
    simp
  · rw [tells.flash_lists.named_succ_iff 0, map]
    simp

end Overlay

end TestSignal
