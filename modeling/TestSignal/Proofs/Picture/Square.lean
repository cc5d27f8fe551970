import Mathlib.Tactic.Linarith
import TestSignal.Picture.Motion
import TestSignal.Proofs.Expr.Reading
import TestSignal.Proofs.Flash
import TestSignal.Proofs.Number.Finite

namespace TestSignal

open Binary64 Outcome

/-!
# The square bounces inside the frame

A coordinate of the square is the distance of a moving point from the nearest odd multiple of
a limit.  Written with a remainder this is not obvious: the remainder names the multiple in the
middle of the period that the point is in, and no other is nearer.  Distance from a set is at
most as far apart as the points are, so the coordinate changes by no more than the point moves,
also at a turn and at the end of a period.

The rate cancels out of the emitted text, because it is an integer that is written exactly: in a
frame the point moves by the steps of the coordinate, whatever the frame rate.
-/

namespace Picture

/-! ## The triangle wave -/

/-- The wave that runs from the limit to zero and back while its argument runs through twice the
limit. -/
def triangle (limit x : ℚ) : ℚ := |x - limit * 2 * ⌊x / (limit * 2)⌋ - limit|

section Wave

variable {limit : ℚ} (positive : 0 < limit) (x : ℚ)
include positive

/-- A remainder lies in the period. -/
theorem remainder_bounds :
    0 ≤ x - limit * 2 * ⌊x / (limit * 2)⌋ ∧ x - limit * 2 * ⌊x / (limit * 2)⌋ < limit * 2 := by
  have period : 0 < limit * 2 := by linarith
  have below := (le_div_iff₀ period).mp (Int.floor_le (x / (limit * 2)))
  have above := (div_lt_iff₀ period).mp (Int.lt_floor_add_one (x / (limit * 2)))
  constructor <;> linarith

theorem triangle_le_limit : triangle limit x ≤ limit := by
  have bounds := remainder_bounds positive x
  exact abs_le.mpr ⟨by linarith, by linarith⟩

/-- No odd multiple of the limit is nearer than the one in the middle of the period. -/
theorem triangle_le_abs_sub (k : Int) : triangle limit x ≤ |x - (2 * k + 1) * limit| := by
  have small := triangle_le_limit positive x
  have bounds := remainder_bounds positive x
  have period : 0 ≤ limit * 2 := by linarith
  rcases Int.lt_trichotomy k ⌊x / (limit * 2)⌋ with before | rfl | after
  · have periods : ((k : ℚ) + 1) * (limit * 2) ≤ ⌊x / (limit * 2)⌋ * (limit * 2) :=
      mul_le_mul_of_nonneg_right (by exact_mod_cast before) period
    have right := le_abs_self (x - (2 * k + 1) * limit)
    linarith
  · exact le_of_eq (congrArg abs (by ring))
  · have periods : ((⌊x / (limit * 2)⌋ : ℚ) + 1) * (limit * 2) ≤ k * (limit * 2) :=
      mul_le_mul_of_nonneg_right (by exact_mod_cast after) period
    have left := neg_le_abs (x - (2 * k + 1) * limit)
    linarith

/-- The wave changes by no more than its argument. -/
theorem abs_triangle_sub_le (y : ℚ) : |triangle limit x - triangle limit y| ≤ |x - y| := by
  have toward (a b : ℚ) : triangle limit a - triangle limit b ≤ |a - b| := by
    have nearest := triangle_le_abs_sub positive a ⌊b / (limit * 2)⌋
    have way := abs_sub_le a b ((2 * (⌊b / (limit * 2)⌋ : ℚ) + 1) * limit)
    have same : b - (2 * (⌊b / (limit * 2)⌋ : ℚ) + 1) * limit =
        b - limit * 2 * ⌊b / (limit * 2)⌋ - limit := by ring
    rw [same] at way
    change triangle limit a - |b - limit * 2 * ⌊b / (limit * 2)⌋ - limit| ≤ |a - b|
    linarith
  refine abs_sub_le_iff.mpr ⟨toward x y, ?_⟩
  rw [abs_sub_comm]
  exact toward y x

end Wave

/-! ## Coordinates over the frames -/

/-- A text whose value over the frames stays between zero and a limit, and changes from one frame
to the next by no more than a step. -/
def Bounces (text : String) (limit step : Int) : Prop :=
  ∃ position : Nat → ℚ,
    (∀ frame, Expr.textValue? (Flash.atFrame frame) text = some (position frame)) ∧
      (∀ frame, 0 ≤ position frame ∧ position frame ≤ limit) ∧
      ∀ frame, |position (frame + 1) - position frame| ≤ step

theorem bounces_triangle {text : String} {limit step : Int} (positive : 0 < limit)
    (forward : 0 ≤ step)
    (evaluated : ∀ frame, Expr.textValue? (Flash.atFrame frame) text =
      some (triangle limit (step * frame))) : Bounces text limit step := by
  have wave : (0 : ℚ) < limit := by exact_mod_cast positive
  refine ⟨_, evaluated, fun frame => ⟨abs_nonneg _, triangle_le_limit wave _⟩, fun frame => ?_⟩
  refine le_trans (abs_triangle_sub_le wave _ _) ?_
  have moved : (step : ℚ) * ((frame + 1 : Nat) : ℚ) - step * frame = step := by
    push_cast
    ring
  rw [moved, abs_of_nonneg (by exact_mod_cast forward)]

/-- An integer is written exactly. -/
theorem exists_twoPlaces {value : Int} (short : value.natAbs < 2 ^ 53) :
    ∃ d : FixedDecimal, twoPlaces (.int value) = .ok (.numeral (.fixed d)) ∧ d.places = 2 ∧
      d.value = value := by
  rcases ofInt?_exact short with ⟨x, converted, counted⟩
  rcases Expr.exists_fixed_of_units counted 2 with ⟨d, fixed, places, value⟩
  refine ⟨d, bind_ok.mpr ⟨x, Number.toBinary64_int.mpr converted, ?_⟩, places, value⟩
  exact congrArg Except.ok fixed

/-- The coordinate of a moving point, with the decimals of its speed and its period. -/
def coordinate (limit rate : Int) (speed period : FixedDecimal) : Expr :=
  .call .abs (.sub
    (.mod (.mul (.paren (.div (.symbol "n") (.integer rate))) (.numeral (.fixed speed)))
      (.numeral (.fixed period)))
    (.integer limit))

theorem readable_coordinate (limit rate : Int) {speed period : FixedDecimal}
    (placed : speed.places = 2) (placed' : period.places = 2) :
    (coordinate limit rate speed period).Readable := by
  have counter : (Expr.symbol "n").Readable := Expr.readable_symbol (by decide) (by decide)
  have elapsed : (Expr.paren (.div (.symbol "n") (.integer rate))).Readable :=
    ⟨counter, trivial, Nat.le_succ 1, Nat.le_refl 2⟩
  have speeds : (Expr.numeral (.fixed speed)).Readable := by
    change 0 < speed.places
    omega
  have periods : (Expr.numeral (.fixed period)).Readable := by
    change 0 < period.places
    omega
  exact ⟨⟨⟨elapsed, speeds, Nat.le_succ 1, Nat.le_refl 2⟩, periods⟩, trivial, Nat.le_succ 1⟩

/-- The rate cancels out: in a frame the point moves by the steps of the coordinate. -/
theorem value?_coordinate {limit step rate : Int} {speed period : FixedDecimal}
    (positive : 0 < limit) (counted : 0 < rate) (speeds : speed.value = (step * rate : Int))
    (periods : period.value = (limit * 2 : Int)) (frame : Nat) :
    (coordinate limit rate speed period).value? (Flash.atFrame frame) =
      some (triangle limit (step * frame)) := by
  have rateNonzero : (rate : ℚ) ≠ 0 := by exact_mod_cast Int.ne_of_gt counted
  have periodNonzero : period.value ≠ 0 := by
    rw [periods]
    exact_mod_cast show limit * 2 ≠ 0 by omega
  have counter : (Expr.symbol "n").value? (Flash.atFrame frame) = some (frame : ℚ) := by
    rw [Expr.value?_symbol, Flash.atFrame, if_pos rfl]
  have elapsed := Expr.value?_div counter (Expr.value?_integer rate) rateNonzero
  have point := Expr.value?_mul
    (show (Expr.paren (.div (.symbol "n") (.integer rate))).value? (Flash.atFrame frame) = _
      from elapsed) (Expr.value?_fixed speed)
  have remainder := Expr.value?_remainder point (Expr.value?_fixed period) periodNonzero
  have distance := Expr.value?_abs (Expr.value?_sub remainder (Expr.value?_integer limit))
  have moved : (frame : ℚ) / rate * speed.value = step * frame := by
    rw [speeds]
    push_cast
    field_simp
  rw [moved, periods] at distance
  refine distance.trans ?_
  unfold triangle
  push_cast
  rfl

/-- A coordinate of moderate size and speed can be written, and bounces. -/
theorem exists_bounce {limit step rate : Int} (inside : 0 ≤ limit) (narrow : limit < 2 ^ 52)
    (forward : 0 ≤ step) (counted : 0 < rate) (short : step * rate < 2 ^ 53) :
    ∃ e, bounce limit step (.int rate) = .ok e ∧ Bounces e.text limit step := by
  unfold bounce
  split
  case isTrue small =>
      have still (frame : Nat) : Expr.textValue? (Flash.atFrame frame) (0 : Expr).text = some 0 :=
        Expr.textValue?_text (show (0 : Expr).Readable from trivial) _
      have room : (0 : ℚ) ≤ limit := by exact_mod_cast inside
      have least : |(0 : ℚ) - 0| ≤ step := by
        rw [sub_self, abs_zero]
        exact_mod_cast forward
      exact ⟨0, rfl, fun _ => 0, still, fun _ => ⟨le_refl 0, room⟩, fun _ => least⟩
  case isFalse large =>
      have fast : 0 ≤ step * rate := Int.mul_nonneg forward (by omega)
      rcases exists_twoPlaces (show (step * rate).natAbs < 2 ^ 53 by omega) with
        ⟨speed, written, speedPlaces, speeds⟩
      rcases exists_twoPlaces (show (limit * 2).natAbs < 2 ^ 53 by omega) with
        ⟨period, writtenPeriod, periodPlaces, periods⟩
      have product : (Number.int step).mul (.int rate) = .ok (.int (step * rate)) := rfl
      refine ⟨_, bind_ok.mpr ⟨_, product, bind_ok.mpr ⟨_, written, bind_ok.mpr
        ⟨_, writtenPeriod, rfl⟩⟩⟩, bounces_triangle (by omega) forward fun frame => ?_⟩
      -- The rate is shown as the integer that it is.
      change Expr.textValue? _ (coordinate limit rate speed period).text = _
      rw [Expr.textValue?_text (readable_coordinate limit rate speedPlaces periodPlaces)]
      exact value?_coordinate (by omega) counted speeds periods frame

/-! ## The square -/

/-- The edge of the square is a share of the frame, which binary64 holds. -/
theorem exists_blockSize {format : Format} (wide : format.width.natAbs < 2 ^ 40)
    (high : format.height.natAbs < 2 ^ 40) :
    ∃ size, blockSize format = .ok size ∧ 40 ≤ size := by
  have share : Within (1 * unitsPerOne) (Binary64.ofDecimal false 9 (-2)) :=
    within_ofDecimal 9 2 (by decide) (by decide) (by decide)
  have shorter : (min format.width format.height).natAbs ≤ 2 ^ 40 := by omega
  rcases Number.exists_roundedProduct shorter share (by decide) (by decide) with
    ⟨product, rounded, scaled, made, _⟩
  refine ⟨max 40 rounded, ?_, by omega⟩
  exact bind_ok.mpr ⟨_, scaled, bind_ok.mpr ⟨_, made, rfl⟩⟩

/-- The square never leaves the frame and never jumps.  For a frame of any size and rate that
binary64 counts, the overlay that moves the square can be written, and its coordinates bounce
between zero and what the frame leaves beside the square, at most eight pixels a frame across
and six down. -/
theorem square_stays_inside {format : Format} {rate : Int} (paced : format.fps = .int rate)
    (wide : 0 < format.width ∧ format.width < 2 ^ 40)
    (high : 0 < format.height ∧ format.height < 2 ^ 40) (counted : 0 < rate ∧ rate < 2 ^ 40)
    (pad : String) :
    ∃ size x y, blockSize format = .ok size ∧
      squareSteps format pad = .ok
        [ .onLine "anim"
            [{ name := "overlay", params := [("x", .quoted x), ("y", .quoted y)] }]
            [.pad pad] ] ∧
      Bounces x (max 0 (format.width - size)) 8 ∧ Bounces y (max 0 (format.height - size)) 6 := by
  rcases exists_blockSize (show format.width.natAbs < 2 ^ 40 by omega)
    (show format.height.natAbs < 2 ^ 40 by omega) with ⟨size, sized, least⟩
  rcases exists_bounce (show 0 ≤ max 0 (format.width - size) by omega) (by omega)
    (show (0 : Int) ≤ 8 by decide) counted.1 (by omega) with ⟨x, madeX, across⟩
  rcases exists_bounce (show 0 ≤ max 0 (format.height - size) by omega) (by omega)
    (show (0 : Int) ≤ 6 by decide) counted.1 (by omega) with ⟨y, madeY, down⟩
  have path : squarePath format = .ok { x, y } := by
    unfold squarePath
    rw [bind_of_ok sized, paced, Number.max_one_int counted.1]
    dsimp only
    rw [bind_of_ok madeX, bind_of_ok madeY]
    rfl
  exact ⟨size, x.text, y.text, sized, bind_ok.mpr ⟨_, path, rfl⟩, across, down⟩

theorem square_stays_inside_showcase :
    Format.standard.fps = .int 50 ∧ (0 < Format.standard.width ∧ Format.standard.width < 2 ^ 40) ∧
      (0 < Format.standard.height ∧ Format.standard.height < 2 ^ 40) ∧
      ∃ size x y, blockSize .standard = .ok size ∧
        squareSteps .standard "1:v" = .ok
          [ .onLine "anim"
              [{ name := "overlay", params := [("x", .quoted x), ("y", .quoted y)] }]
              [.pad "1:v"] ] ∧
        Bounces x (max 0 (1920 - size)) 8 ∧ Bounces y (max 0 (1080 - size)) 6 := by
  have wide : 0 < Format.standard.width ∧ Format.standard.width < 2 ^ 40 := by decide
  have high : 0 < Format.standard.height ∧ Format.standard.height < 2 ^ 40 := by decide
  exact ⟨rfl, wide, high, square_stays_inside rfl wide high (by decide) "1:v"⟩

/-- In a frame that is no larger than the square, the square stands still. -/
example : bounce (max 0 (32 - 40)) 8 50 = .ok 0 := rfl

end Picture

end TestSignal
