import TestSignal.Picture.Graph
import TestSignal.Proofs.Filter.Legible
import TestSignal.Proofs.Outcome

namespace TestSignal

/-!
# Every feature draws with legible filters

The features of a picture print fixed texts and numbers, and what a user chooses appears in
two places: in shown text, which may be anything, and in the colour of the text.  The colour
is the one value that is printed as the configuration has it, so it must keep away from the
marks; a checked configuration has such a colour.
-/

open Outcome OptionValue

/-! ## The user's text -/

namespace Overlay

/-- Styles of legible texts: a font that can be read and a colour without marks. -/
structure TextStyle.Legible (style : TextStyle) : Prop where
  font : style.font.Legible
  color : (OptionValue.plain style.color).Legible

theorem lookUp_ok {find? : String → Option α} {value : Value} {result : α}
    (found : lookUp find? value = .ok (some result)) : ∃ text, find? text = some result := by
  cases value with
  | string text => exact ⟨text, Except.ok.inj found⟩
  | list _ | object _ => cases found
  | null | bool _ | number _ => cases Except.ok.inj found

theorem legible_borderParams {weight color : Value} (plain : (OptionValue.plain color).Legible)
    {params : List (String × OptionValue)} (made : borderParams weight color = .ok params) :
    LegibleParams params := by
  rcases bind_ok.mp made with ⟨width, _, made⟩
  cases width with
  | none =>
      rw [← pure_ok.mp made]
      exact .cons rfl (legible_int 0) .nil
  | some width =>
      rw [← pure_ok.mp made]
      exact .cons rfl (legible_int width) (.cons rfl plain .nil)

theorem avoids_boxColor? {style color : String} (found : boxColor? style = some color) :
    Avoids valueMarks color := by
  unfold boxColor? at found
  repeat' split at found
  all_goals cases found
  all_goals exact .literal rfl

theorem legible_boxParams {style : Value} {size : Number} {params : List (String × OptionValue)}
    (made : boxParams style size = .ok params) : LegibleParams params := by
  rcases bind_ok.mp made with ⟨found, looked, made⟩
  cases found with
  | none =>
      rw [← pure_ok.mp made]
      exact .nil
  | some color =>
      rcases lookUp_ok looked with ⟨name, listed⟩
      rcases bind_ok.mp made with ⟨width, _, made⟩
      rcases bind_ok.mp made with ⟨border, _, made⟩
      rw [← pure_ok.mp made]
      exact .cons rfl (legible_int 1)
        (.cons rfl (legible_text (avoids_boxColor? listed))
          (.cons rfl (legible_int (max 4 border)) .nil))

theorem avoids_textLineY {baseY : String} (base : Avoids valueMarks baseY) {row : Row}
    {index count : Int} {size : Number} {y : String}
    (made : textLineY baseY row index count size = .ok y) : Avoids valueMarks y := by
  unfold textLineY at made
  split at made
  · rw [← pure_ok.mp made]
    exact base
  · rcases bind_ok.mp made with ⟨spacing, _, made⟩
    rcases bind_ok.mp made with ⟨shift, _, made⟩
    have moved := avoids_of_isNumeral shift.isNumeral_toShortText
    have below : Avoids valueMarks ("(" ++ baseY ++ ")+" ++ shift.toShortText) :=
      (((.literal rfl : Avoids valueMarks "(").append base).append (.literal rfl)).append moved
    cases row with
    | center =>
        rcases bind_ok.mp made with ⟨height, _, made⟩
        rcases bind_ok.mp made with ⟨half, _, made⟩
        rw [← pure_ok.mp made]
        exact (((.literal rfl : Avoids valueMarks "((h-text_h)/2-").append
          (avoids_of_isNumeral half.isNumeral_toShortText)).append (.literal rfl)).append moved
    | top | bottom =>
        rw [← pure_ok.mp made]
        exact below

theorem legible_textFilter {style : TextStyle} (legible : style.Legible) {anchor : Anchor}
    {line : String} {index count : Nat} {filter : Filter}
    (made : textFilter style anchor line index count = .ok filter) : filter.Legible := by
  rcases bind_ok.mp made with ⟨border, madeBorder, made⟩
  rcases bind_ok.mp made with ⟨box, madeBox, made⟩
  rcases bind_ok.mp made with ⟨y, madeY, made⟩
  have place := Placement.avoids_ofText (.literal rfl : Avoids valueMarks "50") anchor
  have front : LegibleParams [("text", .literal line), style.font.param,
      ("fontsize", .number style.size), ("fontcolor", .plain style.color)] :=
    .cons rfl trivial (legible.font.append (.cons rfl (legible_number style.size)
      (.cons rfl legible.color .nil)))
  have position : LegibleParams
      [("x", .text (Placement.text anchor).x), ("y", .text y)] :=
    .cons rfl (legible_text place.1)
      (.cons rfl (legible_text (avoids_textLineY place.2 madeY)) .nil)
  rw [← pure_ok.mp made]
  exact .of rfl nofun (((front.append
    (legible_borderParams legible.color madeBorder)).append (legible_boxParams madeBox)).append
    position)

theorem legible_textFilters {text : String} {style : TextStyle} (legible : style.Legible)
    {anchor : Anchor} {filters : List Filter}
    (made : textFilters text style anchor = .ok filters) :
    ∀ filter ∈ filters, filter.Legible :=
  forall_of_mapM_ok (fun _ _ _ madeOne => legible_textFilter legible madeOne) made

/-! ## Lines in a box -/

/-- White letters in a box, as the clock and the status block draw their lines. -/
theorem legible_boxedLine {text y : OptionValue} {font : Font} {size border : Int}
    {color x : String} (shown : text.Legible) (legible : font.Legible)
    (filled : Avoids valueMarks color) (across : Avoids valueMarks x) (down : y.Legible) :
    Filter.Legible
      { name := "drawtext"
        params :=
          [("text", text), font.param, ("fontsize", .int size), ("fontcolor", .text "white"),
            ("box", .int 1), ("boxcolor", .text color), ("boxborderw", .int border),
            ("x", .text x), ("y", y)] } := by
  have letters : LegibleParams [("fontsize", .int size), ("fontcolor", .text "white")] :=
    .cons rfl (legible_int size) (.cons rfl (legible_text (.literal rfl)) .nil)
  have box : LegibleParams
      [("box", .int 1), ("boxcolor", .text color), ("boxborderw", .int border)] :=
    .cons rfl (legible_int 1) (.cons rfl (legible_text filled)
      (.cons rfl (legible_int border) .nil))
  have position : LegibleParams [("x", .text x), ("y", y)] :=
    .cons rfl (legible_text across) (.cons rfl down .nil)
  exact .of rfl nofun
    (.cons rfl shown (legible.append (letters.append (box.append position))))

end Overlay

/-! ## The clock -/

namespace Clock

theorem avoids_amountText {amount : Number} {text : String}
    (made : amountText amount = .ok text) : Avoids valueMarks text := by
  cases amount with
  | int size =>
      unfold amountText at made
      dsimp only at made
      split at made
      · rw [← Except.ok.inj made]
        exact avoids_of_isNumeral (IsNumeral.toString_int size)
      · cases made
  | float x =>
      rw [← Except.ok.inj made]
      exact avoids_of_isNumeral x.isNumeral_toText

theorem LineShift.avoids_apply {base : String} (plain : Avoids valueMarks base)
    {shift : LineShift} {y : String} (made : shift.apply base = .ok y) : Avoids valueMarks y := by
  have opening : Avoids valueMarks "(" := .literal rfl
  cases shift with
  | none =>
      rw [← Except.ok.inj made]
      exact plain
  | plus amount | minus amount =>
      rcases bind_ok.mp made with ⟨text, written, made⟩
      rw [← pure_ok.mp made]
      exact ((opening.append plain).append (.literal rfl)).append (avoids_amountText written)

theorem legible_lineFilter {text : String} {font : Font} (legible : font.Legible)
    {sizes : BlockSizes} {x y : String} (across : Avoids valueMarks x)
    (down : Avoids valueMarks y) : (lineFilter text font sizes x y).Legible :=
  Overlay.legible_boxedLine trivial legible (.literal rfl) across (legible_text down)

/-- Whatever the clock is synchronised to and whatever its zones are called. -/
theorem legible_filters {timing : Timing} {format : Format} {anchor : Anchor} {font : Font}
    (legible : font.Legible) {filters : List Filter}
    (made : Clock.filters timing format anchor font = .ok filters) :
    ∀ filter ∈ filters, filter.Legible := by
  have place := Placement.avoids_ofText (.literal rfl : Avoids valueMarks "10") anchor
  rcases bind_ok.mp made with ⟨sizes, _, made⟩
  refine forall_of_mapM_ok (fun line _ filter madeOne => ?_) made
  rcases bind_ok.mp madeOne with ⟨y, placed, madeOne⟩
  rcases bind_ok.mp placed with ⟨shift, _, moved⟩
  rw [← pure_ok.mp madeOne]
  exact legible_lineFilter legible place.1 (LineShift.avoids_apply place.2 moved)

end Clock

/-! ## The status block -/

namespace Overlay

theorem avoids_overlayX (anchor : Anchor) : Avoids valueMarks (overlayX anchor) := by
  unfold overlayX
  cases anchor.column <;> exact .literal rfl

theorem legible_statusFilter {layout : StatusLayout} {x line : String} {font : Font}
    (legible : font.Legible) (across : Avoids valueMarks x) {index : Nat} :
    (statusFilter layout x font line index).Legible :=
  legible_boxedLine trivial legible (.literal rfl) across (legible_int (layout.lineY index))

theorem legible_statusFilters {lines : List String} {format : Format} {fontSize : Value}
    {anchor : Anchor} {font : Font} (legible : font.Legible) {filters : List Filter}
    (made : statusFilters lines format fontSize anchor font = .ok filters) :
    ∀ filter ∈ filters, filter.Legible := by
  unfold statusFilters at made
  split at made
  · rw [← pure_ok.mp made]
    exact nofun
  · rcases bind_ok.mp made with ⟨layout, _, made⟩
    rw [← pure_ok.mp made]
    intro filter member
    rcases List.mem_map.mp member with ⟨line, _, rfl⟩
    exact legible_statusFilter legible (avoids_overlayX anchor)

/-! ## The flash -/

theorem mem_replaceWordPair {first second replacement c : Char} {inWord : Bool}
    {text : List Char} (member : c ∈ Text.replaceWordPair first second replacement inWord text) :
    c = replacement ∨ c ∈ text := by
  fun_induction Text.replaceWordPair first second replacement inWord text with
  | case1 inWord a b rest found inductionHypothesis =>
      rcases List.mem_cons.mp member with same | later
      · exact Or.inl same
      · exact (inductionHypothesis later).imp_right fun inRest =>
          List.mem_cons_of_mem a (List.mem_cons_of_mem b inRest)
  | case2 inWord a b rest other inductionHypothesis =>
      rcases List.mem_cons.mp member with same | later
      · exact Or.inr (List.mem_cons.mpr (Or.inl same))
      · exact (inductionHypothesis later).imp_right (List.mem_cons_of_mem a)
  | case3 => exact Or.inr member

/-- Renaming the variables brings no backslash into an expression. -/
theorem avoids_toTextSpace {text : String} (unescaped : Avoids ['\x5c'] text) :
    Avoids ['\x5c'] (toTextSpace text) := by
  intro c member marked
  rw [List.mem_singleton.mp marked] at member
  unfold toTextSpace at member
  rw [String.toList_ofList] at member
  rcases mem_replaceWordPair member with same | inner
  · exact absurd same (by decide)
  · rcases mem_replaceWordPair inner with same | original
    · exact absurd same (by decide)
    · exact unescaped '\x5c' original List.mem_cons_self

theorem unescaped_flashBoxTop {offset : Value} {top : Expr}
    (made : flashBoxTop offset flashBoxHeight = .ok top) : top.Unescaped := by
  have frame : Avoids ['\x5c'] "ih" := .literal rfl
  have middle : (centredTop flashBoxHeight).Unescaped := ⟨⟨frame, ⟨frame, trivial⟩⟩, trivial⟩
  rcases bind_ok.mp made with ⟨percent, _, made⟩
  dsimp only at made
  split at made
  · rw [← pure_ok.mp made]
    exact middle
  · rcases bind_ok.mp made with ⟨ratio, _, made⟩
    rcases bind_ok.mp made with ⟨share, _, made⟩
    rw [← pure_ok.mp made]
    exact ⟨middle, Expr.unescaped_fixed 4 share, middle⟩

/-- A cue that is switched by a legible expression and has legible colours. -/
structure FlashCue.Legible (cue : FlashCue) : Prop where
  enable : cue.enable.Unescaped
  box_color : Avoids valueMarks cue.boxColor
  label_color : Avoids valueMarks cue.labelColor

theorem legible_flashCues {fps : Number} {cues : List FlashCue}
    (made : flashCues fps = .ok cues) : ∀ cue ∈ cues, cue.Legible := by
  have counter : Avoids ['\x5c'] "n" := .literal rfl
  rcases bind_ok.mp made with ⟨cycle, _, made⟩
  rw [← pure_ok.mp made]
  refine List.forall_mem_cons.mpr ⟨?_, List.forall_mem_singleton.mpr ?_⟩
  · exact ⟨⟨⟨counter, trivial⟩, trivial⟩, .literal rfl, .literal rfl⟩
  · exact ⟨⟨⟨counter, trivial⟩, trivial⟩, .literal rfl, .literal rfl⟩

/-- A share of the frame size can stand without quotes. -/
theorem avoids_share {measure : String} (plain : Avoids valueMarks measure)
    (units places : Nat) :
    Avoids valueMarks (Expr.mul (.symbol measure) (.places units places)).text :=
  (plain.append (.literal rfl)).append (avoids_of_isNumeral (Numeral.isNumeral_toText _))

theorem legible_cueBox {cue : FlashCue} (legible : cue.Legible) {top : Expr}
    (unescaped : top.Unescaped) : (cueBox cue top).Legible := by
  have width : Avoids valueMarks flashBoxWidth.text := avoids_share (.literal rfl) 15 2
  have height : Avoids valueMarks flashBoxHeight.text := avoids_share (.literal rfl) 15 2
  have left : Avoids valueMarks ("(iw-" ++ flashBoxWidth.text ++ ")/2") :=
    ((.literal rfl : Avoids valueMarks "(iw-").append width).append (.literal rfl)
  exact .of rfl nofun
    (.cons rfl (legible_text left) (.cons rfl (legible_expr unescaped)
      (.cons rfl (legible_text width) (.cons rfl (legible_text height)
        (.cons rfl (legible_text legible.box_color)
          (.cons rfl (legible_text (.literal rfl))
            (.cons rfl (legible_expr legible.enable) .nil)))))))

theorem legible_cueLabel {cue : FlashCue} (legible : cue.Legible) {top : Expr}
    (unescaped : top.Unescaped) {size : Int} {font : Font} (legibleFont : font.Legible) :
    (cueLabel cue top size font).Legible := by
  have height : Avoids ['\x5c'] flashBoxHeight.text :=
    (avoids_share (.literal rfl) 15 2).unescaped
  have labelTop : (OptionValue.quoted (flashLabelTop top.text flashBoxHeight.text)).Legible :=
    ((((.literal rfl : Avoids ['\x5c'] "(").append (avoids_toTextSpace unescaped.text)).append
      (.literal rfl)).append (avoids_toTextSpace height)).append (.literal rfl)
  exact .of rfl nofun
    (.cons rfl trivial (legibleFont.append
      (.cons rfl (legible_int size) (.cons rfl (legible_text legible.label_color)
        (.cons rfl (legible_text (.literal rfl)) (.cons rfl labelTop
          (.cons rfl (legible_expr legible.enable) .nil)))))))

theorem legible_flashFilters {format : Format} {offset : Value} {font : Font}
    (legible : font.Legible) {filters : List Filter}
    (made : flashFilters format offset font = .ok filters) :
    ∀ filter ∈ filters, filter.Legible := by
  rcases bind_ok.mp made with ⟨cues, cued, made⟩
  rcases bind_ok.mp made with ⟨size, _, made⟩
  rcases bind_ok.mp made with ⟨top, placed, made⟩
  have unescaped := unescaped_flashBoxTop placed
  rw [← pure_ok.mp made]
  intro filter member
  rcases List.mem_flatMap.mp member with ⟨cue, isCue, isFilter⟩
  have legibleCue := legible_flashCues cued cue isCue
  rcases List.mem_cons.mp isFilter with rfl | last
  · exact legible_cueBox legibleCue unescaped
  · rw [List.mem_singleton.mp last]
    exact legible_cueLabel legibleCue unescaped legible

end Overlay

/-! ## Moving elements -/

namespace Picture

theorem unescaped_twoPlaces {number : Number} {e : Expr} (made : twoPlaces number = .ok e) :
    e.Unescaped := by
  rcases bind_ok.mp made with ⟨x, _, made⟩
  rw [← pure_ok.mp made]
  exact Expr.unescaped_fixed 2 x

theorem unescaped_bounce {limit stepsPerFrame : Int} {rate : Number} {e : Expr}
    (made : bounce limit stepsPerFrame rate = .ok e) : e.Unescaped := by
  have counter : Avoids ['\x5c'] "n" := .literal rfl
  unfold bounce at made
  split at made
  · rw [← pure_ok.mp made]
    trivial
  · rcases bind_ok.mp made with ⟨distance, _, made⟩
    rcases bind_ok.mp made with ⟨speed, madeSpeed, made⟩
    rcases bind_ok.mp made with ⟨period, madePeriod, made⟩
    rw [← pure_ok.mp made]
    exact ⟨⟨⟨⟨counter, trivial⟩, unescaped_twoPlaces madeSpeed⟩,
      unescaped_twoPlaces madePeriod⟩, trivial⟩

theorem unescaped_stairExpr (height : Int) : (stairExpr height).Unescaped := by
  have line : Avoids ['\x5c'] "Y" := .literal rfl
  have time : Avoids ['\x5c'] "T" := .literal rfl
  exact ⟨⟨⟨⟨line, trivial⟩, trivial⟩, ⟨time, trivial⟩⟩, trivial⟩

theorem legible_lumaText (height : Int) : (OptionValue.quoted (lumaText height)).Legible :=
  Avoids.append (.literal rfl) (unescaped_stairExpr height).text

theorem unescaped_pulseX {format : Format} {e : Expr} (made : pulseX format = .ok e) :
    e.Unescaped := by
  have counter : Avoids ['\x5c'] "n" := .literal rfl
  rcases bind_ok.mp made with ⟨distance, _, made⟩
  rcases bind_ok.mp made with ⟨speed, madeSpeed, made⟩
  rw [← pure_ok.mp made]
  exact ⟨⟨⟨counter, trivial⟩, unescaped_twoPlaces madeSpeed⟩, trivial⟩

end Picture

end TestSignal
