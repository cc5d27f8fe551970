import Mathlib.Data.List.GetD
import TestSignal.Audio.Plan
import TestSignal.Proofs.Config.Fields
import TestSignal.Proofs.Filter.Legible
import TestSignal.Proofs.Text.Occurrence

namespace TestSignal

open Outcome Text

/-!
# Which channels flash

A slot flashes when it is active and asked to.  Only the expression of such a slot has the
gates of the flash pair in its text.  A gate compares the sample index with two bounds, and
no other part of an expression names that comparison, so one letter tells the two apart.

An active slot beyond the first pair makes the output eight channels wide, so a slot that
flashes always leaves the program.
-/

/-! ## Parts of expressions -/

namespace Expr

/-- The places in which an expression of the sound stands in another. -/
inductive Within (part : Expr) : Expr → Prop where
  | here : Within part part
  | paren {inner} : Within part inner → Within part (.paren inner)
  | addLeft {left right} : Within part left → Within part (.add left right)
  | addRight {left right} : Within part right → Within part (.add left right)
  | mulRight {left right} : Within part right → Within part (.mul left right)
  | condition {first second third} : Within part first →
      Within part (.call3 .choose first second third)

/-- The text of a part occurs in the text of the whole, one case for each place. -/
theorem Within.occurs {part whole : Expr} (within : Within part whole) :
    Occurs part.escapedText whole.escapedText := by
  unfold escapedText
  induction within with
  | here => exact .refl _
  | paren _ ih => exact (ih.append_left _).append_right _
  | addLeft _ ih => exact (ih.append_right _).append_right _
  | addRight _ ih => exact ih.append_left _
  | mulRight _ ih => exact ih.append_left _
  | condition _ ih =>
      rw [render]
      apply Occurs.append_right
      iterate 4 apply Occurs.append_right
      exact ih.append_left _

end Expr

namespace Audio

/-! ## Expressions with gates -/

/-- The texts of both gates occur in a text. -/
structure FlashGates.OccurIn (gates : FlashGates) (text : String) : Prop where
  lead : Occurs gates.lead.escapedText text
  tail : Occurs gates.tail.escapedText text

/-- A gate names the comparison that nothing else in the sound names. -/
theorem mem_gate (start length : Int) : 'b' ∈ (gate start length).escapedText.toList := by
  let comparison : Expr :=
    .call3 .between sampleIndex (.integer start) (.integer (start + length - 1))
  have compared : Expr.Within comparison (gate start length) := .condition .here
  have named : Occurs "between" comparison.escapedText := by
    change Occurs "between" ("between" ++ "(" ++ _ ++ "\\," ++ _ ++ "\\," ++ _ ++ ")")
    iterate 7 apply Occurs.append_right
    exact .refl "between"
  exact compared.occurs.mem (named.mem (by decide))

theorem not_occurIn_of_avoids {fps : Number} {gates : FlashGates}
    (made : flashGates fps = .ok gates) {text : String} (avoids : Avoids ['b'] text) :
    ¬gates.OccurIn text := by
  intro occur
  rcases bind_ok.mp made with ⟨length, _, made⟩
  have lead := occur.lead
  rw [← pure_ok.mp made] at lead
  exact avoids 'b' (lead.mem (mem_gate 0 length)) List.mem_cons_self

theorem avoids_silence : Avoids ['b'] silence.escapedText := by
  have text : silence.escapedText = "(0.000001)" := by decide
  rw [text]
  exact .literal rfl

theorem escapedText_tone (frequency : Number) :
    (tone frequency).escapedText = "sin(2*PI*" ++ frequency.toShortText ++ "*t)" := by
  change "sin" ++ "(" ++
    ("2" ++ "*" ++ "PI" ++ "*" ++ frequency.toShortText ++ "*" ++ "t") ++ ")" = _
  apply String.toList_injective
  simp

theorem avoids_tone (frequency : Number) : Avoids ['b'] (tone frequency).escapedText := by
  have opening : Avoids ['b'] "sin(2*PI*" := .literal rfl
  rw [escapedText_tone]
  exact (opening.append (.ofTest (by decide) frequency.isNumeral_toShortText)).append
    (.literal rfl)

theorem avoids_carrier (slot : Slot) (frequency : Number) :
    Avoids ['b'] (carrier slot frequency).escapedText := by
  have base := avoids_tone (if slot.force400 then forcedFrequency else frequency)
  have envelope : cycleEnvelope.escapedText = "if(lt(mod(t\\,1)\\,0.5)\\,1\\,0.1)" := by decide
  unfold carrier
  dsimp only
  split
  · change Avoids ['b'] ("(" ++ (_ ++ "*" ++ cycleEnvelope.escapedText) ++ ")")
    have opening : Avoids ['b'] "(" := .literal rfl
    have closing : Avoids ['b'] ")" := .literal rfl
    rw [envelope]
    exact (opening.append ((base.append (.literal rfl)).append (.literal rfl))).append closing
  · exact base

/-- The expression of a slot has the gates exactly when the slot is active and flashes. -/
theorem occurIn_slotExpr_iff {slot : Slot} {frequency fps : Number} {e : Expr}
    {gates : FlashGates} (gated : flashGates fps = .ok gates)
    (made : slotExpr slot frequency fps = .ok e) :
    gates.OccurIn e.escapedText ↔ slot.active = true ∧ slot.flash = true := by
  unfold slotExpr at made
  cases active : slot.active with
  | false =>
      rw [active] at made
      rw [← pure_ok.mp made]
      simp [not_occurIn_of_avoids gated avoids_silence]
  | true =>
      cases flash : slot.flash with
      | false =>
          simp only [active, flash, Bool.not_true, Bool.false_eq_true, if_false] at made
          rw [← pure_ok.mp made]
          simp [not_occurIn_of_avoids gated (avoids_carrier slot frequency)]
      | true =>
          simp only [active, flash, Bool.not_true, Bool.false_eq_true, if_false, if_true] at made
          rcases bind_ok.mp made with ⟨found, same, made⟩
          cases gated.symm.trans same
          simp only [and_self, iff_true]
          have lead : Expr.Within gates.lead (leadFlash gates) := .paren (.mulRight .here)
          have tail : Expr.Within gates.tail (tailFlash gates) := .paren (.mulRight .here)
          -- With an identification envelope the carrier stands in front of the pair.
          cases cycle : slot.cycle with
          | true =>
              simp only [cycle, if_true] at made
              rw [← pure_ok.mp made]
              exact ⟨(Expr.Within.addLeft (.addRight lead)).occurs,
                (Expr.Within.addRight tail).occurs⟩
          | false =>
              simp only [cycle, Bool.false_eq_true, if_false] at made
              rw [← pure_ok.mp made]
              exact ⟨(Expr.Within.addLeft lead).occurs, (Expr.Within.addRight tail).occurs⟩

/-! ## Plans -/

/-- What the lists of a plan ask of the slot in a place; beyond a list nothing is asked. -/
def Plan.slot (plan : Plan) (index : Nat) : Slot where
  active := plan.channelMap.getD index false
  cycle := plan.idCycle.getD index false
  flash := plan.flash.getD index false
  force400 := plan.force400.getD index false

/-- What a plan takes from the lists and the frequency that it is made for. -/
structure Plan.MadeFrom (plan : Plan) (channelMap idCycle flash force400 frequency : Value)
    (fps : Number) : Prop where
  channel_map : Channels.activeMap channelMap (.int 2) = .ok plan.channelMap
  id_cycle : plan.idCycle = Channels.flags idCycle
  flash : plan.flash = Channels.flags flash
  force400 : plan.force400 = Channels.flags force400
  frequency : frequencyOf frequency = .ok plan.frequency
  expressions :
    (List.range channelSlots).mapM (fun index => slotExpr (plan.slot index) plan.frequency fps) =
      .ok plan.expressions
  channels : plan.channels = channelCount plan.channelMap

theorem slotAt_ok {channelMap idCycle flash force400 : List Bool} {index : Nat} {slot : Slot}
    (read : slotAt channelMap idCycle flash force400 index = .ok slot) :
    slot =
      { active := channelMap.getD index false
        cycle := idCycle.getD index false
        flash := flash.getD index false
        force400 := force400.getD index false } := by
  rcases bind_ok.mp read with ⟨active, readActive, read⟩
  rcases bind_ok.mp read with ⟨cycle, readCycle, read⟩
  rcases bind_ok.mp read with ⟨flashes, readFlash, read⟩
  rcases bind_ok.mp read with ⟨low, readForce400, read⟩
  rw [← pure_ok.mp read, (Config.flagAt_ok.mp readActive).2, (Config.flagAt_ok.mp readCycle).2,
    (Config.flagAt_ok.mp readFlash).2, (Config.flagAt_ok.mp readForce400).2]

/-- Lists with a switch for every slot can be read for every slot. -/
theorem exists_slotAt {channelMap idCycle flash force400 : List Bool} {index : Nat}
    (mapped : index < channelMap.length) (cycled : index < idCycle.length)
    (flashed : index < flash.length) (forced : index < force400.length) :
    ∃ slot, slotAt channelMap idCycle flash force400 index = .ok slot :=
  exists_bind (Config.flagAt_ok.mpr ⟨mapped, rfl⟩) <|
    exists_bind (Config.flagAt_ok.mpr ⟨cycled, rfl⟩) <|
      exists_bind (Config.flagAt_ok.mpr ⟨flashed, rfl⟩) <|
        exists_bind (Config.flagAt_ok.mpr ⟨forced, rfl⟩) ⟨_, rfl⟩

theorem madeFrom_synthesize {channelMap idCycle flash force400 frequency : Value} {fps : Number}
    {plan : Plan} (made : synthesize channelMap idCycle flash force400 frequency fps = .ok plan) :
    plan.MadeFrom channelMap idCycle flash force400 frequency fps := by
  rcases bind_ok.mp made with ⟨map, mapped, made⟩
  rcases bind_ok.mp made with ⟨tuned, found, made⟩
  rcases bind_ok.mp made with ⟨expressions, voiced, made⟩
  rw [← pure_ok.mp made]
  refine
    { channel_map := mapped, id_cycle := rfl, flash := rfl, force400 := rfl, frequency := found
      channels := rfl, expressions := mapM_ok_of_agrees (fun index _ e voicedAt => ?_) voiced }
  rcases bind_ok.mp voicedAt with ⟨slot, read, voicedAt⟩
  rw [slotAt_ok read] at voicedAt
  exact voicedAt

/-- The slot of a number is active and asked to flash. -/
def Plan.Flashes (plan : Plan) (index : Nat) : Prop :=
  plan.channelMap.getD index false = true ∧ plan.flash.getD index false = true

theorem lt_of_getD {flags : List Bool} {index : Nat} (on : flags.getD index false = true) :
    index < flags.length := by
  by_contra beyond
  rw [List.getD_eq_default _ _ (Nat.le_of_not_lt beyond)] at on
  exact Bool.false_ne_true on

theorem any_iff_getD {flags : List Bool} :
    flags.any id = true ↔ ∃ index, flags.getD index false = true := by
  rw [List.any_eq_true]
  constructor
  · rintro ⟨flag, member, on⟩
    rcases List.getElem_of_mem member with ⟨index, bound, same⟩
    refine ⟨index, ?_⟩
    rw [List.getD_eq_getElem _ _ bound, same]
    exact on
  · rintro ⟨index, on⟩
    have bound := lt_of_getD on
    rw [List.getD_eq_getElem _ _ bound] at on
    exact ⟨_, List.getElem_mem bound, on⟩

namespace Plan.MadeFrom

variable {channelMap idCycle flash force400 frequency : Value} {fps : Number} {plan : Plan}
  {index : Nat}

theorem lt_of_active (made : plan.MadeFrom channelMap idCycle flash force400 frequency fps)
    (active : plan.channelMap.getD index false = true) : index < channelSlots := by
  rw [← (Config.activeMap_spec made.channel_map).1]
  exact lt_of_getD active

/-- The output is wide enough for every active slot. -/
theorem lt_channels (made : plan.MadeFrom channelMap idCycle flash force400 frequency fps)
    (active : plan.channelMap.getD index false = true) : index < plan.channels := by
  rw [made.channels, channelCount]
  split
  case isTrue => exact made.lt_of_active active
  case isFalse narrow =>
      by_contra beyond
      apply narrow
      rw [any_iff_getD]
      refine ⟨index - 2, ?_⟩
      rw [List.getD_eq_getElem?_getD, List.getElem?_drop, ← List.getD_eq_getElem?_getD,
        Nat.add_sub_cancel' (Nat.le_of_not_lt beyond)]
      exact active

/-- Some expression of a plan has the gates exactly when some slot is active and flashes. -/
theorem exists_occurIn_iff
    (made : plan.MadeFrom channelMap idCycle flash force400 frequency fps) {gates : FlashGates}
    (gated : flashGates fps = .ok gates) :
    (∃ e ∈ plan.expressions, gates.OccurIn e.escapedText) ↔ ∃ index, plan.Flashes index := by
  constructor
  · rintro ⟨e, member, occur⟩
    rcases exists_item_of_mapM_ok made.expressions member with ⟨index, _, voiced⟩
    exact ⟨index, (occurIn_slotExpr_iff gated voiced).mp occur⟩
  · rintro ⟨index, flashes⟩
    rcases exists_mem_of_mapM_ok made.expressions
      (List.mem_range.mpr (made.lt_of_active flashes.1)) with ⟨e, member, voiced⟩
    exact ⟨e, member, (occurIn_slotExpr_iff gated voiced).mpr flashes⟩

end Plan.MadeFrom

end Audio

end TestSignal
