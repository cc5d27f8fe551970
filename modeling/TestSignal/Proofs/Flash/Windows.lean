import Mathlib.Algebra.Order.Interval.Finset.Basic
import Mathlib.Data.Int.ConditionallyCompleteOrder
import Mathlib.Data.Int.Interval
import TestSignal.Proofs.Flash
import TestSignal.Proofs.Number.Between

namespace TestSignal

/-!
# The windows of the flash

A gate names the first and the last sample of the period that it lets through; those between
them are its window.  The lead window starts with the period and the tail window one second
later, which is half the period.

Nothing is asked of the rate.  A rate below one, a negative one and one that is no number all
count as one frame per second, and a frame then lasts for half the period, which is the most
that a frame can last.  So the lead window ends at the latest one sample before the tail
window begins.  A rate of more frames than there are samples still has one sample for a frame.
-/

namespace Flash

open Outcome

/-! ## The length of a frame -/

/-- A frame has at least one sample and lasts for one second at the most, whatever the rate is. -/
theorem samplesPerFrame_bounds (fps : Number) :
    ∃ length : Nat, Audio.samplesPerFrame fps = .ok (length : Int) ∧ 0 < length ∧
      length ≤ Audio.sampleRate := by
  have rate : Audio.sampleRate = 48000 := rfl
  rcases Number.exists_div_between (show Audio.sampleRate < 2 ^ 53 by decide) (by decide)
    (Number.one_le_max fps) with ⟨ratio, units, divided, counted, most⟩
  rcases Number.exists_roundHalfUp_between 0 Audio.sampleRate counted (by omega)
    (by exact_mod_cast most) (by decide) with ⟨rounded, made, least, short⟩
  refine ⟨(max 1 rounded).toNat, ?_, by omega, by omega⟩
  refine bind_ok.mpr ⟨_, divided, bind_ok.mpr ⟨_, made, pure_ok.mpr ?_⟩⟩
  omega

/-! ## The windows -/

/-- The samples of the period between which the comparison in a gate is made. -/
noncomputable def window? : Expr → Option (Finset ℤ)
  | .call3 .choose (.call3 .between _ (.numeral (.integer first)) (.numeral (.integer last))) _ _ =>
      some (Finset.Icc first last)
  | _ => none

/-- The text of a gate with its window: it is open exactly while the sample within the period is
in the window. -/
structure Opens (gate : String) (window : Finset ℤ) : Prop where
  written : (Expr.read? (Expr.unescaped gate)).bind window? = some window
  open_iff : ∀ sample, gateIsOn? sample gate =
    some (decide (((sample % Audio.flashPeriod : Nat) : ℤ) ∈ window))

/-- The window of a gate is as long as the gate is meant to be open. -/
theorem opens_gate (start length : Nat) :
    Opens (Audio.gate start length).escapedText (Finset.Icc (start : ℤ) (start + length - 1)) where
  written := by
    rw [Expr.unescaped_escapedText (readable_gate _ _), Expr.read?_text (readable_gate _ _)]
    rfl
  open_iff sample := by
    rw [gateIsOn?_gate]
    refine congrArg some (decide_eq_decide.mpr ?_)
    rw [Finset.mem_Icc]
    omega

/-- Windows that are apart are never open together. -/
theorem Opens.not_both {gate other : String} {window next : Finset ℤ} (first : Opens gate window)
    (second : Opens other next) (disjoint : Disjoint window next) (sample : Nat) :
    ¬(gateIsOn? sample gate = some true ∧ gateIsOn? sample other = some true) := by
  rintro ⟨isOpen, nextOpen⟩
  rw [first.open_iff] at isOpen
  rw [second.open_iff] at nextOpen
  exact Finset.disjoint_left.mp disjoint (of_decide_eq_true (Option.some.inj isOpen))
    (of_decide_eq_true (Option.some.inj nextOpen))

/-- Two windows of a length, the second half a period after the first, and apart within one
period. -/
structure Apart (length : Int) (lead tail : Finset ℤ) : Prop where
  lead_nonempty : lead.Nonempty
  tail_nonempty : tail.Nonempty
  lead_card : (lead.card : Int) = length
  tail_card : (tail.card : Int) = length
  lead_within : lead ⊆ Finset.Ico 0 (Audio.flashPeriod : ℤ)
  tail_within : tail ⊆ Finset.Ico 0 (Audio.flashPeriod : ℤ)
  shifted : tail = lead.map (addRightEmbedding (Audio.sampleRate : ℤ))
  disjoint : Disjoint lead tail

/-- Frames of at most one second are apart when they start one second after the other. -/
theorem apart_windows {length : Nat} (positive : 0 < length)
    (short : length ≤ Audio.sampleRate) :
    Apart length (Finset.Icc ((0 : Nat) : ℤ) ((0 : Nat) + length - 1))
      (Finset.Icc (Audio.sampleRate : ℤ) (Audio.sampleRate + length - 1)) where
  lead_nonempty := Finset.nonempty_Icc.mpr (by omega)
  tail_nonempty := Finset.nonempty_Icc.mpr (by omega)
  lead_card := by
    rw [Int.card_Icc]
    omega
  tail_card := by
    rw [Int.card_Icc]
    omega
  lead_within := by
    have period : Audio.flashPeriod = 2 * Audio.sampleRate := rfl
    intro sample member
    rw [Finset.mem_Icc] at member
    rw [Finset.mem_Ico]
    omega
  tail_within := by
    have period : Audio.flashPeriod = 2 * Audio.sampleRate := rfl
    intro sample member
    rw [Finset.mem_Icc] at member
    rw [Finset.mem_Ico]
    omega
  shifted := by
    have last : ((0 : Nat) : ℤ) + length - 1 + Audio.sampleRate =
        Audio.sampleRate + length - 1 := by omega
    rw [Finset.map_add_right_Icc, last, Nat.cast_zero, zero_add]
  disjoint := by
    rw [Finset.disjoint_left]
    intro sample inLead inTail
    rw [Finset.mem_Icc] at inLead inTail
    omega

/--
The windows of the flash, for every rate.  A frame has a length, the texts of the gates have
windows of that length within the period, the tail window is the lead window one second later,
the two are apart, and no sample ever passes both gates.
-/
theorem flash_windows (fps : Number) :
    ∃ length gates lead tail,
      Audio.samplesPerFrame fps = .ok length ∧ Audio.flashGates fps = .ok gates ∧
        Opens gates.lead.escapedText lead ∧ Opens gates.tail.escapedText tail ∧
        Apart length lead tail ∧
        ∀ sample, ¬(gateIsOn? sample gates.lead.escapedText = some true ∧
          gateIsOn? sample gates.tail.escapedText = some true) := by
  rcases samplesPerFrame_bounds fps with ⟨length, sampled, positive, short⟩
  have gates : Audio.flashGates fps = .ok _ := bind_ok.mpr ⟨_, sampled, rfl⟩
  have lead := opens_gate 0 length
  have tail := opens_gate Audio.sampleRate length
  have apart := apart_windows positive short
  exact ⟨length, _, _, _, sampled, gates, lead, tail, apart, lead.not_both tail apart.disjoint⟩

end Flash

end TestSignal
