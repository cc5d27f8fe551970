import TestSignal.Proofs.Config.Fields
import TestSignal.Proofs.Expr.Renaming
import TestSignal.Proofs.Number.Finite
import TestSignal.Proofs.Overlay.Drawn
import TestSignal.Proofs.Picture.Kinds

namespace TestSignal

open Binary64 Outcome

/-!
# The flash cue stays in the frame

The box of the cue stands in the middle of the frame or is moved from there by a share of the way
to the edge.  The offset is brought within a hundred percent whatever it is, and neither the
division nor the rounding to four places takes a share beyond one, so the box never crosses the
edge.

The label has its position from the text of the box's, with the variables of a box replaced by
those of a text.  That text is the text of the box's tree with the variables renamed, so the
label's expression has the value that the box's has, and the label is centred on the box.
-/

namespace Overlay

/-! ## The share of the way -/

/-- The offset is a bounded number of the configuration, zero if it is none. -/
theorem flashOffset_eq_boundedOr (offset : Value) :
    flashOffset offset = Config.boundedOr (.int Limit.lowestFlashOffset)
      (.int Limit.highestFlashOffset) 0 offset := rfl

theorem flashOffset_within {offset : Value} {percent : Number}
    (made : flashOffset offset = .ok percent) :
    (Number.int (-100)).le percent = true ∧ percent.le (Number.int 100) = true := by
  rw [flashOffset_eq_boundedOr] at made
  exact Config.boundedOr_bounds (by decide +kernel) made

/-- The share that a percentage within a hundred says is no greater than one. -/
theorem share_within {percent : Number} (above : (Number.int (-100)).le percent = true)
    (below : percent.le (Number.int 100) = true) {quotient : Number} {share : Binary64}
    (divided : percent.div 100 = .ok quotient) (converted : quotient.toBinary64 = .ok share) :
    Within (1 * unitsPerOne) share := by
  have held : Held (1 * unitsPerOne) := held_integer (by decide)
  rcases Number.exists_place_of_le above below with ⟨units, placed, least, most⟩
  have size : units.natAbs ≤ 100 * unitsPerOne :=
    Number.natAbs_le_of_between (by decide) (by decide) least most
  cases percent with
  | int whole =>
      rw [← Number.Place.at.inj placed, Int.natAbs_mul, Int.natAbs_natCast] at size
      have bounded : whole.natAbs * unitsPerOne ≤ 1 * unitsPerOne * 100 := by
        rw [Nat.one_mul, Nat.mul_comm unitsPerOne]
        exact size
      rcases Number.exists_div_int (by decide) held bounded with ⟨x, same, within⟩
      rw [← Except.ok.inj (same.symm.trans divided)] at converted
      rw [← Except.ok.inj converted]
      exact within
  | float x =>
      have counted := Number.place_float_iff.mp placed
      rcases ofInt?_exact (show ((100 : Nat) : Int).natAbs < 2 ^ 53 by decide) with
        ⟨hundred, conversion, hundredUnits⟩
      have same := Number.float_div x (Number.toBinary64_int.mpr conversion)
      rw [← Except.ok.inj (same.symm.trans divided)] at converted
      rw [← Except.ok.inj converted]
      have within : Within (1 * unitsPerOne * 100) x := by
        refine ⟨units, counted, ?_⟩
        rw [Nat.one_mul, Nat.mul_comm unitsPerOne]
        exact size
      exact within.div (by decide) hundredUnits held

/-! ## The top of the box -/

section Values

variable {assign : String → Option ℚ} {frame : ℚ} (height : assign "ih" = some frame)
include height

theorem value?_flashBoxHeight : flashBoxHeight.value? assign = some (15 / 100 * frame) := by
  have product := Expr.value?_mul ((Expr.value?_symbol "ih").trans height)
    (Expr.value?_fixed { negative := false, units := 15, places := 2 })
  refine product.trans (congrArg some ?_)
  norm_num [FixedDecimal.value]
  ring

theorem value?_centredTop :
    (centredTop flashBoxHeight).value? assign = some ((frame - 15 / 100 * frame) / 2) :=
  Expr.value?_div
    (Expr.value?_sub ((Expr.value?_symbol "ih").trans height) (value?_flashBoxHeight height))
    (Expr.value?_integer 2) (by norm_num)

end Values

theorem readable_frameHeight : (Expr.symbol "ih").Readable :=
  Expr.readable_symbol (by decide) (by decide)

theorem readable_flashBoxHeight : flashBoxHeight.Readable :=
  ⟨readable_frameHeight, Nat.two_pos, by decide, by decide⟩

theorem readable_centredTop : (centredTop flashBoxHeight).Readable :=
  ⟨⟨readable_frameHeight, readable_flashBoxHeight, by decide⟩, trivial, by decide, by decide⟩

/-- The box is moved from the middle by a share of the way to the edge. -/
theorem value?_flashBoxTop {offset : Value} {top : Expr}
    (raised : flashBoxTop offset flashBoxHeight = .ok top) :
    top.Readable ∧ ∃ shift : ℚ, |shift| ≤ 1 ∧
      ∀ (assign : String → Option ℚ) (frame : ℚ), assign "ih" = some frame →
        top.value? assign = some ((1 + shift) * ((frame - 15 / 100 * frame) / 2)) := by
  rcases bind_ok.mp raised with ⟨percent, made, raised⟩
  rcases flashOffset_within made with ⟨above, below⟩
  dsimp only at raised
  split at raised
  case isTrue =>
      rw [← pure_ok.mp raised]
      refine ⟨readable_centredTop, 0, by norm_num, fun assign frame height => ?_⟩
      rw [value?_centredTop height, add_zero, one_mul]
  case isFalse =>
      rcases bind_ok.mp raised with ⟨quotient, divided, raised⟩
      rcases bind_ok.mp raised with ⟨share, converted, raised⟩
      rw [← pure_ok.mp raised]
      rcases Expr.exists_fixed_of_within (share_within above below divided converted) 4 with
        ⟨d, fixed, placed, small⟩
      rw [fixed]
      refine ⟨?_, d.value, by exact_mod_cast small, fun assign frame height => ?_⟩
      · have decimal : (Expr.numeral (.fixed d)).Readable :=
          Nat.lt_of_lt_of_eq (by decide) placed.symm
        exact ⟨readable_centredTop, ⟨decimal, readable_centredTop, Nat.le_succ 1, by decide⟩,
          Nat.le_succ 1⟩
      · have middle := value?_centredTop height
        have moved := Expr.value?_mul (Expr.value?_fixed d) middle
        refine (Expr.value?_add middle moved).trans (congrArg some ?_)
        ring

/-! ## The top of the label -/

/-- A tree in the variables of a text. -/
def inTextSpace (e : Expr) : Expr := (e.rename "ih" "h").rename "iw" "w"

theorem readable_textSpaceHeight : (Expr.symbol "h").Readable :=
  Expr.readable_symbol (by decide) (by decide)

theorem readable_textSpaceWidth : (Expr.symbol "w").Readable :=
  Expr.readable_symbol (by decide) (by decide)

theorem toTextSpace_text {e : Expr} (readable : e.Readable) :
    toTextSpace e.text = (inTextSpace e).text := by
  have height : Expr.Variable 'i' 'h' := ⟨by decide, by decide, by decide, by decide⟩
  have width : Expr.Variable 'i' 'w' := ⟨by decide, by decide, by decide, by decide⟩
  have renamed : (e.rename "ih" "h").Readable := readable.rename readable_textSpaceHeight
  have first := Expr.replaceWordPair_text height 'h' readable
  have second := Expr.replaceWordPair_text width 'w' renamed
  unfold toTextSpace
  rw [first]
  exact (congrArg String.ofList second).trans String.ofList_toList

theorem readable_inTextSpace {e : Expr} (readable : e.Readable) : (inTextSpace e).Readable :=
  (readable.rename readable_textSpaceHeight).rename readable_textSpaceWidth

/-- The tree of the label's top. -/
def labelTop (top height : Expr) : Expr :=
  .add (.paren (inTextSpace top))
    (.paren (.sub (.paren (.div (.paren (inTextSpace height)) 2))
      (.paren (.div (.symbol "text_h") 2))))

theorem flashLabelTop_text {top height : Expr} (readable : top.Readable)
    (readableHeight : height.Readable) :
    flashLabelTop top.text height.text = (labelTop top height).text := by
  have two : (Numeral.integer 2).toText = "2" := rfl
  unfold flashLabelTop
  rw [toTextSpace_text readable, toTextSpace_text readableHeight]
  apply String.toList_injective
  simp [labelTop, Expr.text, Expr.render, two]

/-! ## Box and label -/

/-- The variables of a box in a frame of some height. -/
def boxVariables (frame : ℚ) (name : String) : Option ℚ :=
  if name = "ih" then some frame else none

/-- The variables of a text of some height in such a frame. -/
def labelVariables (frame label : ℚ) (name : String) : Option ℚ :=
  if name = "h" then some frame else if name = "text_h" then some label else none

theorem value?_inTextSpace (e : Expr) (frame label : ℚ) :
    ∃ assign : String → Option ℚ, assign "ih" = some frame ∧
      (inTextSpace e).value? (labelVariables frame label) = e.value? assign := by
  refine ⟨_, ?_, (Expr.value?_rename _).trans (Expr.value?_rename _)⟩
  rfl

/-- The label is as far below the box's top as half of the box's height exceeds half of its own. -/
theorem value?_labelTop {top height : Expr} {frame label y boxHeight : ℚ}
    (topValue : (inTextSpace top).value? (labelVariables frame label) = some y)
    (heightValue : (inTextSpace height).value? (labelVariables frame label) = some boxHeight) :
    (labelTop top height).value? (labelVariables frame label) =
      some (y + (boxHeight / 2 - label / 2)) := by
  have two : ((2 : Int) : ℚ) ≠ 0 := by norm_num
  have own : (Expr.symbol "text_h").value? (labelVariables frame label) = some label := rfl
  exact Expr.value?_add topValue
    (Expr.value?_sub (Expr.value?_div heightValue (Expr.value?_integer 2) two)
      (Expr.value?_div own (Expr.value?_integer 2) two))

theorem readable_labelTop {top height : Expr} (readable : top.Readable)
    (readableHeight : height.Readable) : (labelTop top height).Readable := by
  have name : (Expr.symbol "text_h").Readable := Expr.readable_symbol (by decide) (by decide)
  have half : (Expr.div (.symbol "text_h") 2).Readable := ⟨name, trivial, by decide, by decide⟩
  have boxHalf : (Expr.div (.paren (inTextSpace height)) 2).Readable :=
    ⟨readable_inTextSpace readableHeight, trivial, Nat.le_succ 1, by decide⟩
  exact ⟨readable_inTextSpace readable, ⟨boxHalf, half, by decide⟩, Nat.le_succ 1⟩

/-- The boxes and the labels of the cue are placed by these two texts. -/
theorem places_flashFilters {format : Format} {offset : Value} {font : Font}
    {filters : List Filter} (made : flashFilters format offset font = .ok filters) {top : Expr}
    (raised : flashBoxTop offset flashBoxHeight = .ok top) :
    ∀ filter ∈ filters,
      (filter.name = "drawbox" ∧ filter.option? "y" = some (.quoted top.text) ∧
        filter.option? "h" = some (.text flashBoxHeight.text)) ∨
      (filter.name = "drawtext" ∧
        filter.option? "y" = some (.quoted (flashLabelTop top.text flashBoxHeight.text))) := by
  rcases mem_flashFilters made with ⟨top', raised', members⟩
  cases Except.ok.inj (raised.symm.trans raised')
  intro filter member
  rcases members filter member with ⟨cue, size, rfl | rfl⟩
  · exact .inl ⟨rfl, rfl, rfl⟩
  · exact .inr ⟨rfl, by cases font <;> rfl⟩

/-- Whatever the offset, every box of the cue is inside the frame and every label is centred on
the box, for frames and labels of every height. -/
theorem flash_framed_and_centred {offset : Value} {top : Expr}
    (raised : flashBoxTop offset flashBoxHeight = .ok top) :
    (∀ frame label : ℚ, 0 < frame → ∃ y labelY : ℚ,
      Expr.textValue? (boxVariables frame) top.text = some y ∧
      Expr.textValue? (boxVariables frame) flashBoxHeight.text = some (15 / 100 * frame) ∧
      0 ≤ y ∧ y + 15 / 100 * frame ≤ frame ∧
      Expr.textValue? (labelVariables frame label)
        (flashLabelTop top.text flashBoxHeight.text) = some labelY ∧
      labelY + label / 2 = y + 15 / 100 * frame / 2) ∧
    ∀ (format : Format) (font : Font) (filters : List Filter),
      flashFilters format offset font = .ok filters → ∀ filter ∈ filters,
        (filter.name = "drawbox" ∧ filter.option? "y" = some (.quoted top.text) ∧
          filter.option? "h" = some (.text flashBoxHeight.text)) ∨
        (filter.name = "drawtext" ∧
          filter.option? "y" = some (.quoted (flashLabelTop top.text flashBoxHeight.text))) := by
  refine ⟨fun frame label positive => ?_, fun _ _ _ made => places_flashFilters made raised⟩
  rcases value?_flashBoxTop raised with ⟨readable, shift, small, topValue⟩
  rcases value?_inTextSpace top frame label with ⟨assign, topHeight, topSame⟩
  rcases value?_inTextSpace flashBoxHeight frame label with ⟨assign', boxHeight, boxSame⟩
  rcases abs_le.mp small with ⟨least, most⟩
  have inBox : boxVariables frame "ih" = some frame := rfl
  let y := (1 + shift) * ((frame - 15 / 100 * frame) / 2)
  refine ⟨y, y + (15 / 100 * frame / 2 - label / 2), ?_, ?_, ?_, ?_, ?_, by ring⟩
  case refine_1 => rw [Expr.textValue?_text readable, topValue _ _ inBox]
  case refine_2 =>
      rw [Expr.textValue?_text readable_flashBoxHeight, value?_flashBoxHeight inBox]
  case refine_3 =>
      exact mul_nonneg (by linarith) (by linarith)
  case refine_4 =>
      -- The box is lowest when the whole way is gone.
      have lowest : y ≤ 2 * ((frame - 15 / 100 * frame) / 2) :=
        mul_le_mul_of_nonneg_right (by linarith) (by linarith)
      linarith
  case refine_5 =>
      rw [flashLabelTop_text readable readable_flashBoxHeight,
        Expr.textValue?_text (readable_labelTop readable readable_flashBoxHeight)]
      exact value?_labelTop (topSame.trans (topValue _ _ topHeight))
        (boxSame.trans (value?_flashBoxHeight boxHeight))

theorem flash_framed_and_centred_showcase :
    ∃ top, flashBoxTop (.string " -1e3") flashBoxHeight = .ok top ∧
      top.text = "((ih-(ih*0.15))/2)+(-1.0000*((ih-(ih*0.15))/2))" ∧
      flashLabelTop top.text flashBoxHeight.text =
        "(((h-(h*0.15))/2)+(-1.0000*((h-(h*0.15))/2)))+(((h*0.15)/2)-(text_h/2))" ∧
      (0 : ℚ) < 1080 ∧ ∃ y labelY : ℚ,
        Expr.textValue? (boxVariables 1080) top.text = some y ∧
        0 ≤ y ∧ y + 15 / 100 * 1080 ≤ 1080 ∧
        Expr.textValue? (labelVariables 1080 86)
          (flashLabelTop top.text flashBoxHeight.text) = some labelY ∧
        labelY + 86 / 2 = y + 15 / 100 * 1080 / 2 := by
  have written : (flashBoxTop (.string " -1e3") flashBoxHeight).toOption.any (fun top =>
      top.text = "((ih-(ih*0.15))/2)+(-1.0000*((ih-(ih*0.15))/2))") = true := by
    decide +kernel
  rcases any_ok.mp written with ⟨top, raised, written⟩
  have text := of_decide_eq_true written
  have labelText : flashLabelTop top.text flashBoxHeight.text =
      "(((h-(h*0.15))/2)+(-1.0000*((h-(h*0.15))/2)))+(((h*0.15)/2)-(text_h/2))" := by
    rw [text]
    decide +kernel
  have positive : (0 : ℚ) < 1080 := by norm_num
  rcases (flash_framed_and_centred raised).1 1080 86 positive with
    ⟨y, labelY, boxTop, _, above, below, labelTop, centred⟩
  exact ⟨top, raised, text, labelText, positive, y, labelY, boxTop, above, below, labelTop,
    centred⟩

end Overlay

end TestSignal
