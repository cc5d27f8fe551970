import TestSignal.Audio.Tone
import TestSignal.Overlay.Flash
import TestSignal.Proofs.Expr.Unquoted
import TestSignal.Proofs.Number.Exact
import TestSignal.Proofs.Number.Order

namespace TestSignal

/-!
# The flash in picture and sound

The picture counts frames and the sound counts samples.  A rate that divides the sample
rate gives every frame the same whole number of samples, its length, and the frame of a
sample is then a quotient by the length.  A cycle of frames is as many lengths, so the
samples counted within a cycle give the frames counted within it.

Both cues are one statement.  The cue that starts so many frames into the cycle shows on
the frames with that remainder, and its gate is open for the samples of one length from
there on; the lead cue starts with the cycle, the tail cue half a cycle later.

A cue is the text of an option and a gate is a text in the description of a source; each is
read and evaluated as the engine does.
-/

namespace Flash

open Outcome

/-! ## Frames and samples -/

/-- A sample that is played while a frame shows. -/
def PlayedDuring (fps frame sample : Nat) : Prop :=
  frame * Audio.sampleRate ≤ sample * fps ∧ sample * fps < (frame + 1) * Audio.sampleRate

section Counting

variable {fps length frame sample : Nat}

theorem div_of_playedDuring (whole : length * fps = Audio.sampleRate)
    (played : PlayedDuring fps frame sample) : sample / length = frame := by
  rcases played with ⟨started, notEnded⟩
  rw [← whole, ← Nat.mul_assoc] at started notEnded
  have positive : 0 < fps := Nat.pos_of_ne_zero (by rintro rfl; cases whole)
  have low : frame * length ≤ sample := Nat.le_of_mul_le_mul_right started positive
  have high : sample < (frame + 1) * length := Nat.lt_of_mul_lt_mul_right notEnded
  exact Nat.div_eq_of_lt_le low high

/-- The frame within its cycle, from the sample within as many lengths. -/
theorem mod_div_of_playedDuring (whole : length * fps = Audio.sampleRate)
    (played : PlayedDuring fps frame sample) (cycle : Nat) :
    sample % (cycle * length) / length = frame % cycle := by
  rw [Nat.mod_mul_left_div_self, div_of_playedDuring whole played]

end Counting

/-! ## What is emitted for a rate -/

theorem samplesPerFrame_of_mul {fps length : Nat} (whole : length * fps = Audio.sampleRate) :
    Audio.samplesPerFrame (.int fps) = .ok (length : Int) := by
  have rate : Audio.sampleRate = 48000 := rfl
  have positive : 0 < fps := Nat.pos_of_ne_zero (by rintro rfl; cases whole)
  have sound : 0 < length := Nat.pos_of_ne_zero (by rintro rfl; omega)
  have short : length ≤ 48000 := by
    rw [← rate, ← whole]
    exact Nat.le_mul_of_pos_right length positive
  have narrow : length < 2 ^ 53 := by omega
  rcases Number.div_int_of_mul narrow positive with ⟨ratio, converted, divided⟩
  rw [whole] at divided
  have rounded := Number.roundHalfUp_ofInt? converted (by omega)
  unfold Audio.samplesPerFrame
  rw [Number.max_one_int (by omega)]
  refine bind_ok.mpr ⟨_, divided, bind_ok.mpr ⟨_, rounded, pure_ok.mpr ?_⟩⟩
  exact Int.max_eq_right (by omega)

theorem framesPerCycle_int {fps : Nat} (positive : 0 < fps) (short : fps ≤ Audio.sampleRate) :
    Overlay.framesPerCycle (.int fps) = .ok ((2 * fps : Nat) : Int) := by
  have rate : Audio.sampleRate = 48000 := rfl
  have doubled : (Number.int fps).mul 2 = .ok (.int (fps * 2)) := rfl
  have rounded : Number.roundHalfUp (.int (fps * 2)) = .ok (fps * 2 : Int) :=
    Number.roundHalfUp_int (by omega)
  refine bind_ok.mpr ⟨_, doubled, bind_ok.mpr ⟨_, rounded, pure_ok.mpr ?_⟩⟩
  omega

/-! ## What the expressions say -/

/-- The picture's variables while a frame is made. -/
def atFrame (frame : Nat) (symbol : String) : Option ℚ :=
  if symbol = "n" then some frame else none

/-- The sound's variables while a sample is made. -/
def atSample (sample : Nat) (symbol : String) : Option ℚ :=
  if symbol = "t" then some (sample / Audio.sampleRate) else none

/-- Whether the text of a cue is on at a frame. -/
def cueIsOn? (frame : Nat) (cue : String) : Option Bool := Expr.textIsOn? (atFrame frame) cue

/-- Whether a gate is open at a sample: its text stands in a source, without quotes. -/
def gateIsOn? (sample : Nat) (gate : String) : Option Bool :=
  Expr.textIsOn? (atSample sample) (Expr.unescaped gate)

/-- The cue of a frame of the cycle. -/
def cueOn (cycle start : Nat) : Expr :=
  .call2 .eq (.mod (.symbol "n") (.integer cycle)) (.integer start)

/-- The frame within the cycle is compared with that of the cue. -/
theorem cueIsOn?_cueOn (frame : Nat) {cycle : Nat} (start : Nat) (positive : 0 < cycle) :
    cueIsOn? frame (cueOn cycle start).text = some (decide (frame % cycle = start)) := by
  have counter : (Expr.symbol "n").Readable := Expr.readable_symbol (by decide) (by decide)
  have readable : (cueOn cycle start).Readable := ⟨⟨counter, trivial⟩, trivial⟩
  unfold cueIsOn?
  rw [Expr.textIsOn?_text readable]
  exact Expr.isOn?_eq (Expr.value?_mod (Nat.pos_iff_ne_zero.mp positive) rfl) rfl

theorem value?_sampleIndex (sample : Nat) :
    Audio.sampleIndex.value? (atSample sample) =
      some ((sample % Audio.flashPeriod : Nat) : ℚ) := by
  refine Expr.value?_mod (by decide) ?_
  have counted : ⌊(sample : ℚ) / Audio.sampleRate * ((Audio.sampleRate : Int) : ℚ)⌋ = sample := by
    have nonzero : ((Audio.sampleRate : Int) : ℚ) ≠ 0 := by decide
    rw [← Int.cast_natCast Audio.sampleRate, div_mul_cancel₀ _ nonzero]
    exact Int.floor_natCast sample
  change some ((⌊(sample : ℚ) / Audio.sampleRate * ((Audio.sampleRate : Int) : ℚ)⌋ : Int) : ℚ) = _
  rw [counted, Int.cast_natCast]

theorem readable_gate (start length : Int) : (Audio.gate start length).Readable := by
  have stream : (Expr.symbol "t").Readable := Expr.readable_symbol (by decide) (by decide)
  have index : Audio.sampleIndex.Readable :=
    ⟨⟨stream, trivial, by decide, by decide⟩, trivial⟩
  have boost : Audio.flashBoost.Readable := show 0 < 6 by decide
  exact ⟨⟨index, trivial, trivial⟩, boost, trivial⟩

/-- A gate is open while the sample within the period is one of its own. -/
theorem gateIsOn?_gate (sample start length : Nat) :
    gateIsOn? sample (Audio.gate start length).escapedText =
      some (decide (start ≤ sample % Audio.flashPeriod ∧
        sample % Audio.flashPeriod < start + length)) := by
  have boost : Audio.flashBoost.value? (atSample sample) = some (3981072 / 10 ^ 6) := rfl
  have index := value?_sampleIndex sample
  rw [← Int.cast_natCast (sample % Audio.flashPeriod)] at index
  unfold gateIsOn?
  rw [Expr.unescaped_escapedText (readable_gate _ _), Expr.textIsOn?_text (readable_gate _ _),
    Audio.gate, Expr.isOn?_choose (Expr.isOn?_between index _ _) boost (by norm_num)]
  refine congrArg some (decide_eq_decide.mpr ?_)
  omega

/-- The last sample of a lead gate, and the one behind it. -/
example :
    let gate := "if(between(mod(floor(t*48000)\\,96000)\\,0\\,959)\\,3.981072\\,0)"
    gateIsOn? 96959 gate = some true ∧ gateIsOn? 96960 gate = some false := by decide +kernel

/-! ## Both together -/

/-- The text of a cue and the text of a gate that are on together, for every frame and every
sample played in it. -/
def Coincide (fps : Nat) (cue gate : String) : Prop :=
  ∀ frame sample, PlayedDuring fps frame sample →
    ∃ on, cueIsOn? frame cue = some on ∧ gateIsOn? sample gate = some on

/-- The cue of some frame of the cycle and the gate of its samples. -/
theorem coincide_cue_gate {fps length start opening : Nat}
    (whole : length * fps = Audio.sampleRate) (opens : opening = start * length) :
    Coincide fps (cueOn (2 * fps) start).text (Audio.gate opening length).escapedText := by
  intro frame sample played
  have rate : Audio.sampleRate = 48000 := rfl
  have positive : 0 < fps := Nat.pos_of_ne_zero (by rintro rfl; cases whole)
  have sound : 0 < length := Nat.pos_of_ne_zero (by rintro rfl; omega)
  have period : Audio.flashPeriod = 2 * fps * length := by
    rw [Nat.mul_assoc, Nat.mul_comm fps, whole]
    rfl
  refine ⟨_, cueIsOn?_cueOn frame start (by omega), ?_⟩
  rw [gateIsOn?_gate, period, opens, ← mod_div_of_playedDuring whole played (2 * fps)]
  refine congrArg some (decide_eq_decide.mpr ?_)
  rw [Nat.div_eq_iff sound]
  omega

/-- The option that switches a filter on and off. -/
def enable? (filter : Filter) : Option OptionValue := filter.params.lookup "enable"

/-- The filters of the flash are a box and a label for each cue, switched by the cue. -/
theorem map_enable?_flashFilters {format : Format} {offset : Value} {font : Font}
    {cues : List Overlay.FlashCue} {filters : List Filter}
    (cued : Overlay.flashCues format.fps = .ok cues)
    (made : Overlay.flashFilters format offset font = .ok filters) :
    filters.map (fun filter => (filter.name, enable? filter)) =
      cues.flatMap fun cue =>
        [ ("drawbox", some (.quoted cue.enable.text)),
          ("drawtext", some (.quoted cue.enable.text)) ] := by
  rcases bind_ok.mp made with ⟨found, same, made⟩
  rcases bind_ok.mp made with ⟨size, _, made⟩
  rcases bind_ok.mp made with ⟨top, _, made⟩
  rw [cued] at same
  cases same
  rw [← pure_ok.mp made, List.map_flatMap]
  have box : ∀ cue, enable? (Overlay.cueBox cue top) = some (.quoted cue.enable.text) :=
    fun cue => rfl
  have label : ∀ cue, enable? (Overlay.cueLabel cue top size font) =
      some (.quoted cue.enable.text) := by
    intro cue
    cases font <;> rfl
  refine List.flatMap_congr fun cue _ => ?_
  change [("drawbox", enable? (Overlay.cueBox cue top)),
    ("drawtext", enable? (Overlay.cueLabel cue top size font))] = _
  rw [box, label]

/-- For a rate that divides the sample rate, picture and sound flash together: there are two
cues and two gates, the boxes and the labels are enabled by the texts of the cues, and the text
of each cue is on for exactly the frames whose samples the text of its gate lets through. -/
theorem flash_coincides {fps : Nat} (divides : fps ∣ Audio.sampleRate) :
    ∃ lead tail gates,
      Overlay.flashCues (.int fps) = .ok [lead, tail] ∧
      Audio.flashGates (.int fps) = .ok gates ∧
      Coincide fps lead.enable.text gates.lead.escapedText ∧
      Coincide fps tail.enable.text gates.tail.escapedText ∧
      ∀ (format : Format) (offset : Value) (font : Font) (filters : List Filter),
        format.fps = .int fps → Overlay.flashFilters format offset font = .ok filters →
          filters.map (fun filter => (filter.name, enable? filter)) =
            [ ("drawbox", some (.quoted lead.enable.text)),
              ("drawtext", some (.quoted lead.enable.text)),
              ("drawbox", some (.quoted tail.enable.text)),
              ("drawtext", some (.quoted tail.enable.text)) ] := by
  rcases divides with ⟨length, split⟩
  have whole : length * fps = Audio.sampleRate := (split.trans (Nat.mul_comm fps length)).symm
  have positive : 0 < fps := Nat.pos_of_ne_zero (by rintro rfl; cases whole)
  have short : fps ≤ Audio.sampleRate := Nat.le_of_dvd (by decide) ⟨length, split⟩
  have cycle := framesPerCycle_int positive short
  have samples := samplesPerFrame_of_mul whole
  have cues : Overlay.flashCues (.int fps) = .ok _ := bind_ok.mpr ⟨_, cycle, rfl⟩
  have gates : Audio.flashGates (.int fps) = .ok _ := bind_ok.mpr ⟨_, samples, rfl⟩
  have leadOpens : 0 = 0 * length := (Nat.zero_mul length).symm
  have tailOpens : Audio.sampleRate = fps * length := split
  -- The rate in the tail cue is written as the integer that it is.
  refine ⟨_, _, _, cues, gates, coincide_cue_gate whole leadOpens,
    coincide_cue_gate whole tailOpens, ?_⟩
  intro format offset font filters rate made
  exact map_enable?_flashFilters ((congrArg Overlay.flashCues rate).trans cues) made

theorem flash_coincides_showcase :
    50 ∣ Audio.sampleRate ∧
      ∃ lead tail gates,
        Overlay.flashCues (.int (50 : Nat)) = .ok [lead, tail] ∧
        Audio.flashGates (.int (50 : Nat)) = .ok gates ∧
        ∃ on, cueIsOn? 100 lead.enable.text = some on ∧
          gateIsOn? 96959 gates.lead.escapedText = some on := by
  have divides : 50 ∣ Audio.sampleRate := ⟨960, rfl⟩
  rcases flash_coincides divides with ⟨lead, tail, gates, cues, made, together, _⟩
  exact ⟨divides, lead, tail, gates, cues, made, together 100 96959 ⟨by decide, by decide⟩⟩

end Flash

end TestSignal
