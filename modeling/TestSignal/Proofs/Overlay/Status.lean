import TestSignal.Proofs.Overlay.Outputs
import TestSignal.Proofs.Picture.Kinds

namespace TestSignal

open Outcome Text

/-!
# What the status block says about the flash

The last line of a status block is about the flash.  It lists the active output channels that
are asked to flash, and since the output is wide enough for every active slot these are all
the slots that do.  Where there is none the line has a mark instead, which names no channel.
-/

namespace Overlay

/-- A text in which some channel is named. -/
def NamesChannel (line : String) : Prop :=
  ∃ index, Occurs ("Ch" ++ toString (index + 1)) line

/-! ## The list of channels -/

theorem OutputChannel.inkedEnds_label (channel : OutputChannel) : InkedEnds channel.label where
  starts := by
    unfold BeginsWithInk
    rw [OutputChannel.label, String.toList_append]
    exact ⟨'C', rfl, by decide⟩
  ends := by
    have digits := Picture.toList_stageLabel "Ch" channel.number
    have nonempty : Nat.toDigits 10 channel.number ≠ [] := Nat.toDigits_ne_nil
    change ∃ c, (Picture.stageLabel "Ch" channel.number).toList.getLast? = some c ∧ _
    rw [digits, List.getLast?_append, List.getLast?_eq_some_getLast nonempty]
    refine ⟨_, rfl, ?_⟩
    have digit := Nat.isDigit_of_mem_toDigits (by decide) (by decide)
      (List.getLast_mem nonempty)
    exact ofAscii (fun c => c.isDigit = true → isBlank c = false) (by decide +kernel)
      (toNat_lt_of_isDigit digit) digit

/-- Labels with commas between them begin and end with ink. -/
theorem inkedEnds_channelLabels {channels : List OutputChannel} {role : OutputChannel → Bool}
    (some : ¬(channelLabels channels role).isEmpty = true) :
    InkedEnds (String.intercalate ", " (channelLabels channels role)) := by
  apply InkedEnds.intercalate
  · exact fun none => some (List.isEmpty_iff.mpr none)
  · intro label member
    rcases List.mem_map.mp member with ⟨channel, _, rfl⟩
    exact channel.inkedEnds_label

/-! ## The line of a role -/

variable {plan : Audio.Plan} {channels : List OutputChannel}

theorem inkedEnds_roleLine (title : String) (channels : List OutputChannel)
    (role : OutputChannel → Bool) : InkedEnds (roleLine title channels role) := by
  have mark : InkedEnds "▌" := ⟨⟨'▌', rfl, by decide⟩, ⟨'▌', rfl, by decide⟩⟩
  have listed : InkedEnds (joinedOr "--" (channelLabels channels role)) := by
    unfold joinedOr
    split
    case isTrue => exact ⟨⟨'-', rfl, by decide⟩, ⟨'-', rfl, by decide⟩⟩
    case isFalse some => exact inkedEnds_channelLabels some
  have whole : roleLine title channels role = "▌" ++ ((" " ++ title ++ ": ") ++
      joinedOr "--" (channelLabels channels role)) := by
    apply String.toList_injective
    simp [roleLine]
  rw [whole]
  exact mark.append listed _

/-- The line of the flash names a channel exactly when some slot flashes. -/
theorem namesChannel_flashLine_iff {channelMap idCycle flash force400 frequency : Value}
    {fps : Number} (made : plan.MadeFrom channelMap idCycle flash force400 frequency fps)
    (read : outputChannels plan = .ok channels) :
    NamesChannel (roleLine "1-frame Flash" channels OutputChannel.flash) ↔
      ∃ index, plan.Flashes index := by
  let labels := channelLabels channels OutputChannel.flash
  have line : roleLine "1-frame Flash" channels OutputChannel.flash =
      "▌ 1-frame Flash: " ++ joinedOr "--" labels := by
    apply String.toList_injective
    simp [roleLine, labels]
  constructor
  · rintro ⟨number, occurs⟩
    cases listed : labels with
    | nil =>
        -- Without a label the line is fixed, and no capital C is in it.
        rw [line, listed] at occurs
        have initial : 'C' ∈ ("Ch" ++ toString (number + 1)).toList := by
          rw [String.toList_append]
          exact List.mem_append_left _ (by decide)
        exact absurd (occurs.mem initial) (by decide)
    | cons label rest =>
        have member : label ∈ labels := by
          rw [listed]
          exact List.mem_cons_self
        rcases (mem_channelLabels read).mp member with ⟨index, active, asked, _⟩
        exact ⟨index, (mem_activeOutputs.mp active).2, asked⟩
  · rintro ⟨index, active, asked⟩
    have output : index ∈ activeOutputs plan := mem_activeOutputs.mpr
      ⟨Nat.lt_min.mpr ⟨made.lt_channels active, Audio.lt_of_getD active⟩, active⟩
    have member : "Ch" ++ toString (index + 1) ∈ labels :=
      (mem_channelLabels read).mpr ⟨index, output, asked, rfl⟩
    have some : labels.isEmpty = false := by
      rw [List.isEmpty_eq_false_iff]
      exact List.ne_nil_of_mem member
    refine ⟨index, ?_⟩
    rw [line, joinedOr, some]
    exact (occurs_intercalate member _).append_left _

/-! ## The line of the tone -/

theorem isNumeral_dropTrailingZeros {text : String} (numeral : IsNumeral text.toList) :
    IsNumeral (dropTrailingZeros text).toList := by
  unfold dropTrailingZeros
  rw [String.toList_ofList]
  refine numeral.of_subset fun c member => ?_
  have kept := (List.dropWhile_suffix _).subset (List.mem_reverse.mp member)
  exact List.mem_reverse.mp ((List.dropWhile_suffix _).subset kept)

theorem isNumeral_levelText (rounded : Binary64) : IsNumeral (levelText rounded).toList := by
  unfold levelText
  split
  · exact IsNumeral.toString_int _
  · exact isNumeral_dropTrailingZeros (rounded.isNumeral_fixedText 2)

/-- A level is shown as a number and its unit. -/
theorem exists_numeral_of_levelLabel {level : Value} {label : Option String}
    (labelled : levelLabel level = .ok label) :
    ∀ text ∈ label, ∃ number, IsNumeral number.toList ∧ text = number ++ " dBFS" := by
  rcases bind_ok.mp labelled with ⟨read, _, labelled⟩
  cases read with
  | none =>
      rw [← pure_ok.mp labelled]
      exact nofun
  | some value =>
      rcases bind_ok.mp labelled with ⟨product, _, labelled⟩
      rcases bind_ok.mp labelled with ⟨thousandths, _, labelled⟩
      rcases bind_ok.mp labelled with ⟨quotient, _, labelled⟩
      rcases bind_ok.mp labelled with ⟨rounded, _, labelled⟩
      rw [← pure_ok.mp labelled]
      rintro text ⟨⟩
      refine ⟨_, ?_, rfl⟩
      rw [String.toList_append]
      refine IsNumeral.append ?_ (isNumeral_levelText rounded)
      split <;> decide

/-- A frequency and a level with their units. -/
def measures (frequency : Int) : Option String → String
  | some label => toString frequency ++ " Hz " ++ label
  | none => toString frequency ++ " Hz"

theorem toneLine_eq (channels : List OutputChannel) (frequency : Int) (level : Option String) :
    toneLine channels frequency level = "▌ " ++ (measures frequency level ++
      if (channelLabels channels OutputChannel.isPlain).isEmpty then ""
      else ": " ++ String.intercalate ", " (channelLabels channels OutputChannel.isPlain)) := by
  have joined (rest : String) : "▌ " ++ toString frequency ++ " Hz" ++
      (match level with
      | some label => " " ++ label
      | none => "") ++ rest = "▌ " ++ (measures frequency level ++ rest) := by
    apply String.toList_injective
    cases level <;> simp [measures]
  exact joined _

/-- The measures end in the unit of the level, or in that of the frequency. -/
theorem exists_unit (frequency : Int) {level : Option String}
    (shown : ∀ text ∈ level, ∃ number, text = number ++ " dBFS") :
    ∃ front unit, measures frequency level = front ++ unit ∧ InkedEnds unit := by
  cases level with
  | none =>
      have unit : InkedEnds "Hz" := ⟨⟨'H', rfl, by decide⟩, ⟨'z', rfl, by decide⟩⟩
      refine ⟨toString frequency ++ " ", "Hz", ?_, unit⟩
      apply String.toList_injective
      simp [measures]
  | some label =>
      rcases shown label rfl with ⟨number, rfl⟩
      have unit : InkedEnds "dBFS" := ⟨⟨'d', rfl, by decide⟩, ⟨'S', rfl, by decide⟩⟩
      refine ⟨toString frequency ++ " Hz " ++ number ++ " ", "dBFS", ?_, unit⟩
      apply String.toList_injective
      simp [measures]

theorem inkedEnds_toneLine (channels : List OutputChannel) (frequency : Int)
    {level : Option String} (shown : ∀ text ∈ level, ∃ number, text = number ++ " dBFS") :
    InkedEnds (toneLine channels frequency level) := by
  have mark : InkedEnds "▌" := ⟨⟨'▌', rfl, by decide⟩, ⟨'▌', rfl, by decide⟩⟩
  have line (front last : String) : "▌ " ++ (front ++ last) = "▌" ++ ((" " ++ front) ++ last) := by
    apply String.toList_injective
    simp
  rw [toneLine_eq]
  split
  case isTrue =>
      rcases exists_unit frequency shown with ⟨front, unit, ends, inked⟩
      rw [String.append_empty, ends, line]
      exact mark.append inked _
  case isFalse some =>
      have parts (list : String) : measures frequency level ++ (": " ++ list) =
          (measures frequency level ++ ": ") ++ list := String.append_assoc.symm
      rw [parts, line]
      exact mark.append (inkedEnds_channelLabels some) _

/-! ## The lines of the block -/

/-- The lines are those of the tone and the three roles, behind the one of the format. -/
theorem statusLines_eq {formatId : String} {level : Value} {lines : List String}
    (made : statusLines formatId plan level = .ok lines) :
    ∃ channels heading frequency label, outputChannels plan = .ok channels ∧
      heading.length ≤ 1 ∧ Number.roundHalfUp plan.frequency = .ok frequency ∧
      levelLabel level = .ok label ∧
      lines = heading ++
        [ toneLine channels frequency label,
          roleLine "400Hz" channels OutputChannel.force400,
          roleLine "Cycle ID" channels OutputChannel.cycle,
          roleLine "1-frame Flash" channels OutputChannel.flash ] := by
  rcases bind_ok.mp made with ⟨channels, read, made⟩
  rcases bind_ok.mp made with ⟨frequency, rounded, made⟩
  rcases bind_ok.mp made with ⟨label, labelled, made⟩
  have tone : InkedEnds (toneLine channels frequency label) := by
    refine inkedEnds_toneLine channels frequency fun text member => ?_
    rcases exists_numeral_of_levelLabel labelled text member with ⟨number, _, same⟩
    exact ⟨number, same⟩
  have forced := inkedEnds_roleLine "400Hz" channels OutputChannel.force400
  have cycle := inkedEnds_roleLine "Cycle ID" channels OutputChannel.cycle
  have flash := inkedEnds_roleLine "1-frame Flash" channels OutputChannel.flash
  let heading := if formatId.isEmpty then [] else ["Format: " ++ formatId]
  refine ⟨channels, (heading.filter Text.hasInk).map Text.trim, frequency, label, read, ?_,
    rounded, labelled, ?_⟩
  · rw [List.length_map]
    refine Nat.le_trans (List.length_filter_le _ _) ?_
    simp only [heading]
    split <;> simp
  · rw [← pure_ok.mp made, List.filter_append, List.map_append,
      List.filter_cons_of_pos tone.hasInk, List.filter_cons_of_pos forced.hasInk,
      List.filter_cons_of_pos cycle.hasInk, List.filter_cons_of_pos flash.hasInk, List.filter_nil,
      List.map_cons, List.map_cons, List.map_cons, List.map_singleton, tone.trim, forced.trim,
      cycle.trim, flash.trim]

/-- The flash has the last line, which nothing leaves out or shortens. -/
theorem getLast?_statusLines {formatId : String} {level : Value} {lines : List String}
    (made : statusLines formatId plan level = .ok lines) :
    ∃ channels, outputChannels plan = .ok channels ∧
      lines.getLast? = some (roleLine "1-frame Flash" channels OutputChannel.flash) := by
  rcases statusLines_eq made with ⟨channels, heading, frequency, label, read, _, _, _, rfl⟩
  refine ⟨channels, read, ?_⟩
  rw [List.getLast?_append]
  rfl

/-- The last filter of the block draws its last line. -/
theorem getLast?_statusFilters {lines : List String} {line : String} {format : Format}
    {size : Value} {anchor : Anchor} {font : Font} {filters : List Filter}
    (last : lines.getLast? = some line)
    (made : statusFilters lines format size anchor font = .ok filters) :
    (filters.getLast?.bind fun filter => filter.option? "text") = some (.literal line) := by
  rcases List.getLast?_eq_some_iff.mp last with ⟨front, rfl⟩
  unfold statusFilters at made
  rw [if_neg (by simp)] at made
  rcases bind_ok.mp made with ⟨layout, _, made⟩
  rw [← pure_ok.mp made, List.zipIdx_append, List.map_append]
  change ((_ ++ [statusFilter layout (overlayX anchor) font line _]).getLast?.bind _) = _
  rw [List.getLast?_concat]
  rfl

end Overlay

namespace Picture

/-- When the status block is shown, the last filter of its kind draws the flash's line. -/
theorem Drawing.flash_line {config : RawConfig} {scene : Scene} {fonts : Fonts}
    {host after : Host} {graph : FilterGraph}
    (drawing : Drawing config scene fonts host after graph)
    (shown : config.showConfigOverlay.isOn = true) :
    ∃ channels, Overlay.outputChannels scene.audio = .ok channels ∧
      ((graph.drawnBy "overlay").getLast?.bind fun filter => filter.option? "text") =
        some (.literal (Overlay.roleLine "1-frame Flash" channels
          Overlay.OutputChannel.flash)) := by
  rcases drawing.status with ⟨steps, made, drawn⟩
  unfold statusSteps at made
  rw [shown, Bool.not_true, if_neg Bool.false_ne_true] at made
  rcases bind_ok.mp made with ⟨lines, told, made⟩
  rcases bind_ok.mp made with ⟨filters, placed, made⟩
  rcases Overlay.getLast?_statusLines told with ⟨channels, read, last⟩
  refine ⟨channels, read, ?_⟩
  rw [drawn, ← pure_ok.mp made, flatMap_filters_onLine]
  exact Overlay.getLast?_statusFilters last placed

end Picture

end TestSignal
