import TestSignal.Overlay.Status
import TestSignal.Proofs.Audio.Flashing

namespace TestSignal

open Outcome

/-!
# The channels that a status block tells of

A status block tells of the active channels that leave the program, and looks up in the lists
of the plan what is asked of them.  It is a fault when a list ends too early for that, and
there is no other.  The lists of a plan that is made from loose values have a switch for every
slot, so the look-up never fails on one.
-/

namespace Audio

/-- The lists of a plan say what is asked of the channel in a place. -/
structure Plan.Describes (plan : Plan) (index : Nat) : Prop where
  flash : index < plan.flash.length
  idCycle : index < plan.idCycle.length
  force400 : index < plan.force400.length

/-- The lists of a plan are long enough for its active channels. -/
def Plan.Complete (plan : Plan) : Prop :=
  ∀ index, plan.channelMap.getD index false = true → plan.Describes index

theorem Plan.MadeFrom.complete {channelMap idCycle flash force400 frequency : Value}
    {fps : Number} {plan : Plan}
    (made : plan.MadeFrom channelMap idCycle flash force400 frequency fps) : plan.Complete := by
  intro index active
  have bound := made.lt_of_active active
  constructor
  case flash => rwa [made.flash, Config.length_flags]
  case idCycle => rwa [made.id_cycle, Config.length_flags]
  case force400 => rwa [made.force400, Config.length_flags]

end Audio

namespace Overlay

variable {plan : Audio.Plan} {channels : List OutputChannel}

/-- What a plan asks of the channel in a place; beyond a list nothing is asked. -/
def channelOf (plan : Audio.Plan) (index : Nat) : OutputChannel where
  number := index + 1
  flash := plan.flash.getD index false
  cycle := plan.idCycle.getD index false
  force400 := plan.force400.getD index false

/-- The places of the active channels that leave the program. -/
def activeOutputs (plan : Audio.Plan) : List Nat :=
  (List.range (min plan.channels plan.channelMap.length)).filter fun index =>
    plan.channelMap.getD index false

theorem mem_activeOutputs {index : Nat} : index ∈ activeOutputs plan ↔
    index < min plan.channels plan.channelMap.length ∧
      plan.channelMap.getD index false = true := by
  rw [activeOutputs, List.mem_filter, List.mem_range]

/-! ## One channel -/

theorem ofPlan?_ok {index : Nat} {found : Option OutputChannel}
    (read : OutputChannel.ofPlan? plan index = .ok found) :
    found = if plan.channelMap.getD index false then some (channelOf plan index) else none := by
  rcases bind_ok.mp read with ⟨active, readActive, read⟩
  rw [(Config.flagAt_ok.mp readActive).2]
  cases active with
  | false => exact (pure_ok.mp read).symm
  | true =>
      rcases bind_ok.mp read with ⟨flash, readFlash, read⟩
      rcases bind_ok.mp read with ⟨cycle, readCycle, read⟩
      rcases bind_ok.mp read with ⟨force400, readForce400, read⟩
      rw [← pure_ok.mp read, if_pos rfl, channelOf, (Config.flagAt_ok.mp readFlash).2,
        (Config.flagAt_ok.mp readCycle).2, (Config.flagAt_ok.mp readForce400).2]

/-- An active channel can be read when the lists describe it, and any other always. -/
theorem faultsWhen_ofPlan? {index : Nat} (inside : index < plan.channelMap.length) :
    FaultsWhen (plan.channelMap.getD index false = true ∧ ¬plan.Describes index) .beyondEnd
      (OutputChannel.ofPlan? plan index) := by
  unfold OutputChannel.ofPlan?
  rw [bind_of_ok (Config.flagAt_ok.mpr ⟨inside, rfl⟩)]
  cases plan.channelMap.getD index false with
  | false => exact (FaultsWhen.pure _).congr (by simp)
  | true =>
      have listed (flags : List Bool) := Config.faultsWhen_flagAt flags index
      refine ((listed plan.flash).bind fun _ _ => (listed plan.idCycle).bind fun _ _ =>
        (listed plan.force400).bind fun _ _ => FaultsWhen.pure _).congr ?_
      rw [or_false, ← Nat.not_lt, ← Nat.not_lt, ← Nat.not_lt, ← not_and_or, ← not_and_or]
      constructor
      · exact fun lacks => ⟨rfl, fun described =>
          lacks ⟨described.flash, described.idCycle, described.force400⟩⟩
      · exact fun lacks described => lacks.2 ⟨described.1, described.2.1, described.2.2⟩

/-! ## All channels -/

/-- The channels are those that the plan describes, in their order. -/
theorem outputChannels_ok (read : outputChannels plan = .ok channels) :
    channels = (activeOutputs plan).map (channelOf plan) := by
  rcases bind_ok.mp read with ⟨found, readEach, read⟩
  have each : found.map id = (List.range (min plan.channels plan.channelMap.length)).map
      fun index => if plan.channelMap.getD index false then some (channelOf plan index) else none :=
    map_of_mapM_ok (fun _ _ _ readAt => ofPlan?_ok readAt) readEach
  rw [List.map_id] at each
  rw [← pure_ok.mp read, each, List.filterMap_map, activeOutputs, ← List.filterMap_eq_map,
    List.filterMap_filter]
  rfl

/-- The channels can be read unless the lists end before an active channel of the output. -/
theorem faultsWhen_outputChannels :
    FaultsWhen (∃ index ∈ activeOutputs plan, ¬plan.Describes index) .beyondEnd
      (outputChannels plan) := by
  have each : ∀ index ∈ List.range (min plan.channels plan.channelMap.length),
      FaultsWhen (plan.channelMap.getD index false = true ∧ ¬plan.Describes index) .beyondEnd
        (OutputChannel.ofPlan? plan index) := fun index member =>
    faultsWhen_ofPlan? (Nat.lt_of_lt_of_le (List.mem_range.mp member) (Nat.min_le_right _ _))
  refine ((FaultsWhen.mapM each).bind fun _ _ => FaultsWhen.pure _).congr ?_
  simp only [or_false, mem_activeOutputs, List.mem_range, and_assoc]

theorem exists_outputChannels (complete : plan.Complete) :
    ∃ channels, outputChannels plan = .ok channels := by
  refine faultsWhen_outputChannels.succeeds ?_
  rintro ⟨index, member, lacks⟩
  exact lacks (complete index (mem_activeOutputs.mp member).2)

/-- The labels of the active output channels with a role. -/
theorem mem_channelLabels (read : outputChannels plan = .ok channels)
    {role : OutputChannel → Bool} {label : String} :
    label ∈ channelLabels channels role ↔
      ∃ index ∈ activeOutputs plan, role (channelOf plan index) = true ∧
        label = "Ch" ++ toString (index + 1) := by
  rw [channelLabels, outputChannels_ok read, List.filter_map, List.map_map]
  simp only [List.mem_map, List.mem_filter, Function.comp_apply, and_assoc, eq_comm (b := label)]
  rfl

end Overlay

end TestSignal
