import TestSignal.Audio.Plan
import TestSignal.Picture.Graph
import TestSignal.Proofs.Clock.Timing
import TestSignal.Proofs.Config.WellFormed
import TestSignal.Proofs.Number.Bounds

namespace TestSignal

open Binary64 Config Outcome

/-!
# Checked values are taken as they are

The makers of sound and picture take values of any kind, so each of them brings a value
within its limits once more, or falls back on a default.  The limits and defaults are not
those of the check: a letter size within limits is clamped by one and judged by the other,
and a zero counts as missing in some places.

On what the check has let through none of this changes a value.  A number may be exchanged
for an equal one of the other kind, which is what `same` says; where the number is printed
it is not even exchanged.
-/

/-! ## The limits and defaults -/

/-- A binary64 number that is finite. -/
def Number.isFiniteFloat : Number → Bool
  | .float x => x.isFinite
  | .int _ => false

/-- The limits and defaults of the check, which are taken as they are where they are read
again. -/
theorem Config.settled_constants :
    Number.clamp Audio.standardFrequency Limit.lowestFrequency Limit.highestFrequency =
        standard.audioFreq ∧
      (∀ constant ∈ [Limit.lowestFrequency, Limit.highestFrequency, standard.audioFreq],
        (boundedOr Limit.lowestFrequency Limit.highestFrequency standard.audioFreq
          (.number constant)).toOption.any (·.same constant) = true) ∧
      (∀ constant ∈ [Limit.lowestLevel, Limit.highestLevel, standard.audioLevelDb],
        constant.isFiniteFloat = true ∧
          Number.clamp constant Limit.lowestLevel Limit.highestLevel = constant) ∧
      (Picture.textSize (.number standard.fontSize)).toOption.any
        (·.same standard.fontSize) = true := by
  decide +kernel

/-! ## The sound -/

namespace Audio

/-- The gain for a level that is taken as it is. -/
def levelGain (level : Number) : Option String :=
  let rounded := level.roundPlaces 3
  if rounded.isZero then none else some (rounded.toShortText ++ "dB")

/-- A frequency is brought within its limits as the check does it. -/
theorem frequencyOf_eq (value : Value) :
    frequencyOf value =
      boundedOr Limit.lowestFrequency Limit.highestFrequency standard.audioFreq value := by
  refine congrArg (value.asNumber >>= ·) (funext fun number => ?_)
  cases number with
  | none => exact congrArg Except.ok settled_constants.1
  | some x => rfl

end Audio

namespace Config.ReadFrom

variable {entries : List (String × Value)} {config : Config}

theorem frequencyOf (read : ReadFrom entries config) {frequency : Number}
    (tuned : Audio.frequencyOf (.number config.audioFreq) = .ok frequency) :
    frequency.same config.audioFreq = true := by
  rw [Audio.frequencyOf_eq] at tuned
  rcases boundedOr_again settled_constants.2.1 read.audio_freq with ⟨again, retuned, same⟩
  rwa [Except.ok.inj (tuned.symm.trans retuned)]

/-- A level is a binary64 number that stays within the limits. -/
theorem level_kept (read : ReadFrom entries config) :
    ∃ x, config.audioLevelDb = .float x ∧ x.isFinite = true ∧
      Number.clamp (.float x) Limit.lowestLevel Limit.highestLevel = .float x := by
  rcases boundedOr_spec read.audio_level_db with constant | ⟨x, same, finite, above, below⟩
  · have settled := settled_constants.2.2.1 _ constant
    cases level : config.audioLevelDb with
    | float x =>
        rw [level] at settled
        exact ⟨x, rfl, settled.1, settled.2⟩
    | int whole =>
        rw [level] at settled
        exact absurd settled.1 Bool.false_ne_true
  · refine ⟨x, same, finite, ?_⟩
    unfold Number.clamp Number.max Number.min
    rw [if_pos below, if_pos above]

/-- The gain is that of the level as it is, rounded. -/
theorem gainOf (read : ReadFrom entries config) :
    Audio.gainOf (.number config.audioLevelDb) = .ok (Audio.levelGain config.audioLevelDb) := by
  rcases read.level_kept with ⟨x, same, finite, kept⟩
  rw [same]
  refine bind_ok.mpr ⟨some x, asNumber_float finite, ?_⟩
  dsimp only
  rw [kept]
  rfl

/-! ## The picture -/

/-- Letters are drawn in the size that the check has let through. -/
theorem textSize (read : ReadFrom entries config) {size : Number}
    (sized : Picture.textSize (.number config.fontSize) = .ok size) :
    size.same config.fontSize = true := by
  rcases fontSizeOr_spec read.font_size with default | ⟨x, same, finite, positive⟩
  · rcases any_ok.mp settled_constants.2.2.2 with ⟨found, made, same⟩
    rw [default] at sized ⊢
    rwa [Except.ok.inj (sized.symm.trans made)]
  · have taken : Picture.textSize (.number (.float x)) = .ok (.float x) := by
      unfold Picture.textSize
      rw [asNumber_float finite]
      change Except.ok (if (Number.float x).isZero then 80 else Number.float x) = _
      rw [Number.isZero_of_pos positive]
      rfl
    rw [same] at sized ⊢
    rw [Except.ok.inj (sized.symm.trans taken)]
    exact Number.same_float finite

end Config.ReadFrom

/-! ## Integers within limits -/

/-- A short integer is read as its conversion. -/
theorem Value.asNumber_int {value : Int} (short : value.natAbs < 2 ^ 53) :
    ∃ x, ofInt? value = some x ∧ (Value.int value).asNumber = .ok (some x) := by
  rcases ofInt?_exact short with ⟨x, converted, _⟩
  exact ⟨x, converted, bind_ok.mpr ⟨x, Number.toBinary64_int.mpr converted, rfl⟩⟩

namespace Overlay

/-- A letter size within the limits is the size of the letters, whatever the frame is. -/
theorem overlayFontSize_int {size : Int} (low : 16 ≤ size) (high : size ≤ 160)
    (frameHeight : Int) : overlayFontSize (.int size) frameHeight = .ok size := by
  rcases Value.asNumber_int (show size.natAbs < 2 ^ 53 by omega) with ⟨x, converted, read⟩
  have equal := Number.same_ofInt? converted (by omega)
  have within : ((Number.int Limit.smallestOverlayFont).le (.float x) &&
      (Number.float x).le (.int Limit.largestOverlayFont)) = true := by
    rw [Number.le_congr_right equal, Number.le_congr_left equal, Number.le_int, Number.le_int,
      decide_eq_true (show Limit.smallestOverlayFont ≤ size from low),
      decide_eq_true (show size ≤ Limit.largestOverlayFont from high)]
    rfl
  refine bind_ok.mpr ⟨some x, read, ?_⟩
  have usable : (Option.map Number.float (some x)).filter (fun number =>
      (Number.int Limit.smallestOverlayFont).le number &&
        number.le (.int Limit.largestOverlayFont)) = some (.float x) :=
    Option.filter_some_pos within
  dsimp only
  rw [usable]
  exact Number.roundHalfUp_ofInt? converted (by omega)

/-- The share of the way to the edge that a percentage says. -/
def shareOf (percent : Number) : Except Fault Binary64 := do
  (← percent.div 100).toBinary64

/-- The top of the box for an offset that is taken as it is. -/
def offsetTop (offset : Int) (height : Expr) : Except Fault Expr := do
  let middle := centredTop height
  if offset = 0 then return middle
  else
    let share ← shareOf (.int offset)
    return .add (.paren middle) (.paren (.mul (.fixed 4 share) (.paren middle)))

/-- An offset within the limits is read as a percentage of its value. -/
theorem exists_flashOffset_int {offset : Int} (low : -100 ≤ offset) (high : offset ≤ 100) :
    ∃ percent, flashOffset (.int offset) = .ok percent ∧
      percent.isZero = decide (offset = 0) ∧
      (offset ≠ 0 → shareOf percent = shareOf (.int offset)) := by
  have short : offset.natAbs < 2 ^ 53 := by omega
  rcases Value.asNumber_int short with ⟨x, converted, read⟩
  have place := Number.place_of_same (Number.same_ofInt? converted short)
  refine ⟨_, bind_ok.mpr ⟨some x, read, rfl⟩, ?_⟩
  -- Only a limit that the number equals takes its place.
  have kept : Number.clamp (.float x) (.int Limit.lowestFlashOffset)
        (.int Limit.highestFlashOffset) = .float x ∨
      Number.clamp (.float x) (.int Limit.lowestFlashOffset)
        (.int Limit.highestFlashOffset) = .int offset := by
    have below : (Number.float x).lt (.int 100) = decide (offset < 100) := by
      rw [Number.lt_congr_left place, Number.lt_int]
    have above : (Number.int (-100)).lt (.float x) = decide (-100 < offset) := by
      rw [Number.lt_congr_right place, Number.lt_int]
    unfold Number.clamp Number.max Number.min Limit.lowestFlashOffset Limit.highestFlashOffset
    rw [below]
    by_cases inner : offset < 100
    · rw [decide_eq_true inner, if_pos rfl, above]
      split
      case isTrue => exact .inl rfl
      case isFalse least =>
          rw [decide_eq_true_iff] at least
          exact .inr (congrArg Number.int (by omega))
    · have most : offset = 100 := by omega
      have ordered : (Number.int (-100)).lt (.int 100) = true := by
        rw [Number.lt_int]
        rfl
      rw [decide_eq_false inner, if_neg Bool.false_ne_true, most]
      exact .inr (if_pos ordered)
  have zero : (Number.float x).isZero = decide (offset = 0) := by
    rw [← Number.isZero_int]
    exact Number.same_congr_left place 0
  rcases kept with same | same
  · rw [same]
    refine ⟨zero, fun nonzero => ?_⟩
    have fits : offset.natAbs * unitsPerOne ≤ greatestUnits * 100 := by
      rw [Nat.mul_comm greatestUnits]
      exact Nat.mul_le_mul (by omega) unitsPerOne_le_greatestUnits
    rcases Number.div_ofInt? converted short nonzero (by decide) (by decide) fits
      with ⟨share, divided, dividedConversion⟩
    exact (bind_of_ok dividedConversion _).trans (bind_of_ok divided _).symm
  · rw [same]
    exact ⟨Number.isZero_int offset, fun _ => rfl⟩

theorem flashBoxTop_int {offset : Int} (low : -100 ≤ offset) (high : offset ≤ 100)
    (height : Expr) : flashBoxTop (.int offset) height = offsetTop offset height := by
  rcases exists_flashOffset_int low high with ⟨percent, made, zero, share⟩
  unfold flashBoxTop
  rw [bind_of_ok made]
  unfold offsetTop
  dsimp only
  rw [zero]
  by_cases centred : offset = 0
  · rw [if_pos centred, if_pos (decide_eq_true centred)]
  · rw [if_neg centred, if_neg (by rw [decide_eq_false centred]; exact Bool.false_ne_true),
      ← share centred]
    unfold shareOf
    rw [bind_assoc]

end Overlay

/-- A latency that is a short integer takes the place of the reading's. -/
theorem Clock.Timing.ofReading_latency (reading : Clock.Reading) (fps : Value) {latency : Int}
    (short : latency.natAbs < 2 ^ 51) :
    ofReading reading fps (.int latency) =
      ofReading { reading with latencyMs := .int latency } fps .null := by
  have wide := Number.two_pow_lt_integerLimit
  have finite : finiteNumber? (.int latency) = .ok (some (.int latency)) :=
    finiteNumber?_number (Number.isFinite_int (by omega))
  unfold ofReading
  rw [bind_of_ok finite, bind_of_ok (show finiteNumber? .null = .ok none from rfl)]
  rfl

theorem Clock.Timing.latencyMs_ofReading {reading : Clock.Reading} {fps : Value}
    {timing : Clock.Timing} (made : ofReading reading fps .null = .ok timing) :
    timing.latencyMs = reading.latencyMs := by
  rcases exists_parts made with ⟨parts, timed⟩
  have absent : none = parts.latency := Except.ok.inj timed.latency
  rw [timed.latencyMs, ← absent]
  rfl

end TestSignal
