import TestSignal.Overlay.Flash
import TestSignal.Overlay.Text
import TestSignal.Proofs.Number.Bounds
import TestSignal.Proofs.Overlay.Outputs

namespace TestSignal

open Binary64 Outcome

/-!
# Overlays can be drawn

Texts, the status block and the flash cue are drawn from numbers that a check has let
through.  Letter sizes may be as great as a finite number can be; nothing larger than a
share of one is made an integer.  Positions may leave the finite numbers, because they
are only written.  All other numbers come from the table of formats, which is looked
through.
-/

/-! ## Numbers that a check has let through -/

namespace Number

/-- A number between two integers is finite, and stands on the line between theirs. -/
theorem exists_place_of_le {x : Number} {low high : Int} (above : (int low).le x = true)
    (below : x.le (int high) = true) :
    ∃ units, x.place = .at units ∧ low * unitsPerOne ≤ units ∧ units ≤ high * unitsPerOne := by
  have bounded : ∀ units, x.place = .at units →
      low * unitsPerOne ≤ units ∧ units ≤ high * unitsPerOne := fun units placed =>
    ⟨(le_iff_of_place rfl placed).mp above, (le_iff_of_place placed rfl).mp below⟩
  cases x with
  | int whole => exact ⟨_, rfl, bounded _ rfl⟩
  | float value =>
      cases value with
      | finite negative magnitude => exact ⟨_, rfl, bounded _ rfl⟩
      | infinite negative =>
          cases negative with
          | false => cases below
          | true => cases above
      | nan => cases above

theorem natAbs_le_of_between {units low high : Int} {bound one : Nat}
    (lowSmall : low.natAbs ≤ bound) (highSmall : high.natAbs ≤ bound)
    (above : low * one ≤ units) (below : units ≤ high * one) : units.natAbs ≤ bound * one := by
  have lowest : -(bound : Int) * one ≤ low * one :=
    Int.mul_le_mul_of_nonneg_right (by omega) (by omega)
  have highest : high * one ≤ (bound : Int) * one :=
    Int.mul_le_mul_of_nonneg_right (by omega) (by omega)
  rw [Int.neg_mul] at lowest
  rw [← Int.natCast_mul] at lowest highest
  omega

end Number

/-- A finite number is read as the finite number that it is converted to. -/
theorem Value.exists_asNumber {x : Number} (finite : x.isFinite = .ok true) :
    ∃ value, (Value.number x).asNumber = .ok (some value) ∧ value.isFinite = true := by
  rcases Number.exists_finite finite with ⟨value, converted, isFinite⟩
  refine ⟨value, ?_, isFinite⟩
  cases x with
  | int whole => exact bind_ok.mpr ⟨value, converted, rfl⟩
  | float y =>
      rw [Except.ok.inj converted]
      exact Config.asNumber_float isFinite

/-- A number between two short integers is read as one within their size. -/
theorem Value.exists_asNumber_of_le {x : Number} {low high : Int}
    (above : (Number.int low).le x = true) (below : x.le (Number.int high) = true) {bound : Nat}
    (short : bound < 2 ^ 53) (lowSmall : low.natAbs ≤ bound) (highSmall : high.natAbs ≤ bound) :
    ∃ value, (Value.number x).asNumber = .ok (some value) ∧
      Within (bound * unitsPerOne) value := by
  rcases Number.exists_place_of_le above below with ⟨units, placed, least, most⟩
  have size := Number.natAbs_le_of_between lowSmall highSmall least most
  cases x with
  | int whole =>
      rw [← Number.Place.at.inj placed, Int.natAbs_mul, Int.natAbs_natCast] at size
      have small := Nat.le_of_mul_le_mul_right size unitsPerOne_pos
      rcases within_ofInt? short small with ⟨value, converted, within⟩
      exact ⟨value, bind_ok.mpr ⟨value, Number.toBinary64_int.mpr converted, rfl⟩, within⟩
  | float value =>
      have counted := Number.place_float_iff.mp placed
      have within : Within (bound * unitsPerOne) value := ⟨units, counted, size⟩
      exact ⟨value, Config.asNumber_float within.isFinite, within⟩

namespace Overlay

/-! ## User text -/

theorem exists_borderParams (weight : String) (color : Value) :
    ∃ params, borderParams (.string weight) color = .ok params := by
  have found : lookUp borderWidth? (.string weight) = .ok (borderWidth? weight) := rfl
  refine exists_bind found ?_
  cases borderWidth? weight with
  | none => exact ⟨_, rfl⟩
  | some width => exact ⟨_, rfl⟩

/-- The border of the box is a share of the letter size. -/
theorem exists_boxParams (style : String) {size : Number} (finite : size.isFinite = .ok true) :
    ∃ params, boxParams (.string style) size = .ok params := by
  have found : lookUp boxColor? (.string style) = .ok (boxColor? style) := rfl
  refine exists_bind found ?_
  cases boxColor? style with
  | none => exact ⟨_, rfl⟩
  | some color =>
      have small : Within unitsPerOne (Binary64.ofDecimal false 15 (-2)) :=
        within_share 15 2 (by decide) (by decide)
      rcases Number.exists_share finite small with ⟨product, border, multiplied, rounded⟩
      exact exists_bind multiplied (exists_bind rounded ⟨_, rfl⟩)

/-- The distance between lines may be infinite; only the line's number is converted. -/
theorem exists_textLineY (baseY : String) (row : Row) {index count : Int}
    (indexSmall : index.natAbs < Number.integerLimit)
    (countSmall : (count - 1).natAbs < Number.integerLimit) {size : Number}
    (finite : size.isFinite = .ok true) :
    ∃ y, textLineY baseY row index count size = .ok y := by
  unfold textLineY
  split
  case isTrue => exact ⟨_, rfl⟩
  case isFalse =>
      rcases Number.exists_finite finite with ⟨value, converted, _⟩
      rcases Number.toBinary64_int_of_lt indexSmall with ⟨place, placed⟩
      rcases Number.toBinary64_int_of_lt countSmall with ⟨last, counted⟩
      rcases Number.exists_toBinary64_nat 2 (by decide) with ⟨two, halved, _⟩
      refine exists_bind (Number.mul_float converted _) ?_
      refine exists_bind (Number.mul_float placed _) ?_
      cases row with
      | center =>
          refine exists_bind (Number.mul_float counted _) ?_
          exact exists_bind (Number.float_div _ halved) ⟨_, rfl⟩
      | top => exact ⟨_, rfl⟩
      | bottom => exact ⟨_, rfl⟩

theorem length_mergeLineBreaks_le (text : List Char) :
    (OptionValue.mergeLineBreaks text).length ≤ text.length := by
  induction text using OptionValue.mergeLineBreaks.induct with
  | case1 rest inductionHypothesis =>
      rw [OptionValue.mergeLineBreaks]
      simp only [List.length_cons]
      omega
  | case2 c rest other inductionHypothesis =>
      rw [OptionValue.mergeLineBreaks]
      · simp only [List.length_cons]
        omega
      · exact other
  | case3 => exact Nat.le_refl _

theorem length_cutAtLineFeeds_le (text : List Char) :
    (cutAtLineFeeds text).length ≤ text.length + 1 := by
  induction text with
  | nil => exact Nat.le_refl _
  | cons c rest inductionHypothesis =>
      unfold cutAtLineFeeds
      split
      · exact Nat.succ_le_succ inductionHypothesis
      · cases cut : cutAtLineFeeds rest with
        | nil => exact Nat.succ_le_succ (Nat.zero_le _)
        | cons line more =>
            rw [cut] at inductionHypothesis
            exact Nat.le_succ_of_le inductionHypothesis

/-- A text has at most one line more than it has characters. -/
theorem length_textLines_le (text : String) : (textLines text).length ≤ text.length + 1 := by
  have cut := length_cutAtLineFeeds_le (OptionValue.mergeLineBreaks text.toList)
  have merged := length_mergeLineBreaks_le text.toList
  unfold textLines
  rw [List.length_map, ← String.length_toList]
  omega

/-- The lines of a text can be drawn in a finite size, if there are not too many. -/
theorem exists_textFilters {text : String} (short : text.length < 2 ^ 63) {size : Number}
    (finite : size.isFinite = .ok true) (font : Font) (color : Value)
    (weight background : String) (anchor : Anchor) :
    ∃ filters, textFilters text
      { font, size, color, weight := .string weight, background := .string background }
      anchor = .ok filters := by
  have limit := Number.two_pow_lt_integerLimit
  have count := length_textLines_le text
  unfold textFilters
  refine exists_mapM ?_
  rintro ⟨line, index⟩ member
  have placed := List.mem_zipIdx (List.mem_of_mem_filter member)
  rcases exists_borderParams weight color with ⟨border, bordered⟩
  rcases exists_boxParams background finite with ⟨box, boxed⟩
  have indexSmall : (index : Int).natAbs < Number.integerLimit := by omega
  have countSmall : ((textLines text).length - 1 : Int).natAbs < Number.integerLimit := by omega
  rcases exists_textLineY (Placement.text anchor).y anchor.row indexSmall countSmall finite
    with ⟨y, raised⟩
  exact exists_bind bordered (exists_bind boxed (exists_bind raised ⟨_, rfl⟩))

/-! ## The flash cue -/

/-- The offset of the cue is the asked one or a limit, and an integer only if it is small. -/
theorem exists_flashOffset {offset : Int} (small : offset.natAbs ≤ 100) :
    ∃ percent, flashOffset (.int offset) = .ok percent ∧
      ∀ whole, percent = .int whole → whole.natAbs ≤ 100 := by
  have limit := Number.two_pow_lt_integerLimit
  have finite : (Number.int offset).isFinite = .ok true := Number.isFinite_int (by omega)
  rcases Value.exists_asNumber finite with ⟨x, read, _⟩
  refine ⟨_, bind_ok.mpr ⟨some x, read, rfl⟩, ?_⟩
  intro whole same
  rcases Number.clamp_cases (.float x) (.int Limit.lowestFlashOffset)
      (.int Limit.highestFlashOffset) with chosen | chosen | chosen
  · cases chosen.symm.trans same
  · cases chosen.symm.trans same
    decide
  · cases chosen.symm.trans same
    decide

theorem exists_flashBoxTop {offset : Int} (small : offset.natAbs ≤ 100) (height : Expr) :
    ∃ top, flashBoxTop (.int offset) height = .ok top := by
  rcases exists_flashOffset small with ⟨percent, made, short⟩
  refine exists_bind made ?_
  dsimp only
  split
  case isTrue => exact ⟨_, rfl⟩
  case isFalse =>
      have limit : unitsPerOne * 100 ≤ greatestUnits * 100 :=
        Nat.mul_le_mul_right 100 unitsPerOne_le_greatestUnits
      rw [Nat.mul_comm unitsPerOne] at limit
      have fits : ∀ whole, percent = .int whole →
          whole.natAbs * unitsPerOne ≤ greatestUnits * 100 := by
        intro whole same
        have scaled := Nat.mul_le_mul_right unitsPerOne (short whole same)
        exact Nat.le_trans scaled limit
      rcases Number.exists_div (by decide) (by decide) fits with ⟨share, divided⟩
      exact exists_bind divided ⟨_, rfl⟩

/-- The filters of the cue are boxes and labels, all placed by the top for the offset. -/
theorem mem_flashFilters {format : Format} {offset : Value} {font : Font} {filters : List Filter}
    (made : flashFilters format offset font = .ok filters) :
    ∃ top, flashBoxTop offset flashBoxHeight = .ok top ∧ ∀ filter ∈ filters,
      ∃ cue size, filter = cueBox cue top ∨ filter = cueLabel cue top size font := by
  rcases bind_ok.mp made with ⟨cues, _, made⟩
  rcases bind_ok.mp made with ⟨size, _, made⟩
  rcases bind_ok.mp made with ⟨top, raised, made⟩
  refine ⟨top, raised, ?_⟩
  rw [← pure_ok.mp made]
  intro filter member
  rcases List.mem_flatMap.mp member with ⟨cue, _, either⟩
  simp only [List.mem_cons, List.not_mem_nil, or_false] at either
  exact ⟨cue, size, either⟩

theorem exists_flashFilters {format : Format} (known : format ∈ Format.all) {offset : Int}
    (small : offset.natAbs ≤ 100) (font : Font) :
    ∃ filters, flashFilters format (.int offset) font = .ok filters := by
  have table : ∀ format ∈ Format.all,
      (flashCues format.fps).isOk = true ∧ (cueLabelSize format.height).isOk = true := by
    decide +kernel
  rcases exists_ok (table format known).1 with ⟨cues, cued⟩
  rcases exists_ok (table format known).2 with ⟨size, sized⟩
  rcases exists_flashBoxTop small flashBoxHeight with ⟨top, raised⟩
  exact exists_bind cued (exists_bind sized (exists_bind raised ⟨_, rfl⟩))

/-! ## The status block -/

/-- A level of moderate size can be written. -/
theorem exists_levelLabel {level : Value} {x : Binary64}
    (read : (Config.labelledNumber level).asNumber = .ok (some x))
    (within : Within (120 * unitsPerOne) x) : ∃ label, levelLabel level = .ok label := by
  rcases Number.exists_toBinary64_nat 1000 (by decide) with ⟨thousand, converted, narrow⟩
  have heldProduct : Held (120000 * unitsPerOne) := held_integer (by decide)
  have heldQuotient : Held (120001 * unitsPerOne) := held_integer (by decide)
  have below : 120 * unitsPerOne * (1000 * unitsPerOne) ≤ 120000 * unitsPerOne * unitsPerOne :=
    Nat.le_of_eq (by rw [Nat.mul_mul_mul_comm, Nat.mul_assoc 120000])
  rcases Number.exists_roundHalfUp (by decide) (within.mul narrow heldProduct below) with
    ⟨thousandths, rounded, short⟩
  have small : thousandths.natAbs * unitsPerOne ≤ 120001 * unitsPerOne :=
    Nat.mul_le_mul_right unitsPerOne short
  have divisible : thousandths.natAbs * unitsPerOne ≤ 120001 * unitsPerOne * 1000 :=
    Nat.le_trans small (Nat.le_mul_of_pos_right _ (by decide))
  rcases Number.exists_div_int (by decide) heldQuotient divisible with ⟨quotient, divided, _⟩
  refine exists_bind read ?_
  refine exists_bind (Number.float_mul x converted) ?_
  refine exists_bind rounded ?_
  exact exists_bind divided ⟨_, rfl⟩

/-- The status block has at most five lines. -/
theorem exists_statusLines {plan : Audio.Plan} (complete : plan.Complete)
    (finite : plan.frequency.isFinite = .ok true)
    {level : Value} {x : Binary64}
    (read : (Config.labelledNumber level).asNumber = .ok (some x))
    (within : Within (120 * unitsPerOne) x) (formatId : String) :
    ∃ lines, statusLines formatId plan level = .ok lines ∧ lines.length ≤ 5 := by
  rcases exists_outputChannels complete with ⟨channels, found⟩
  rcases Number.exists_roundHalfUp_of_isFinite finite with ⟨frequency, rounded⟩
  rcases exists_levelLabel read within with ⟨label, labelled⟩
  refine ⟨_, bind_ok.mpr ⟨channels, found, bind_ok.mpr ⟨frequency, rounded,
    bind_ok.mpr ⟨label, labelled, rfl⟩⟩⟩, ?_⟩
  rw [List.length_map]
  refine Nat.le_trans (List.length_filter_le _ _) ?_
  rw [List.length_append]
  split <;> simp

/-- A share of a frame height can be rounded. -/
theorem exists_heightShare {format : Format} (known : format ∈ Format.all) {share : Binary64}
    (small : Within unitsPerOne share) :
    ∃ product rounded, (Number.int format.height).mul (.float share) = .ok product ∧
      Number.roundHalfUp product = .ok rounded := by
  have heights : ∀ format ∈ Format.all, format.height.natAbs ≤ 1080 := by decide
  have height := heights format known
  have limit := Number.two_pow_lt_integerLimit
  have finite : (Number.int format.height).isFinite = .ok true :=
    Number.isFinite_int (by omega)
  exact Number.exists_share finite small

/-- A letter size that is left open, or given as an integer within the limits. -/
def SizeWithinLimits (size : Value) : Prop :=
  ∃ given, size.asNumber = .ok given ∧
    ∀ x ∈ given, ∃ number, ofInt? number = some x ∧ 16 ≤ number ∧ number ≤ 160

/-- The letters of the status block have the given size, or one that is brought within the
limits. -/
theorem exists_overlayFontSize {size : Value} {format : Format} (known : format ∈ Format.all)
    (limited : SizeWithinLimits size) :
    ∃ chosen, overlayFontSize size format.height = .ok chosen ∧ 16 ≤ chosen ∧ chosen ≤ 160 := by
  rcases limited with ⟨given, read, bounded⟩
  unfold overlayFontSize
  rw [bind_of_ok read]
  dsimp only
  split
  case h_1 number usable =>
      rcases Option.map_eq_some_iff.mp (Option.filter_eq_some_iff.mp usable).1 with ⟨x, same, rfl⟩
      rcases bounded x same with ⟨number, converted, low, high⟩
      exact ⟨number, Number.roundHalfUp_ofInt? converted (by omega), low, high⟩
  case h_2 =>
      have small : Within unitsPerOne (Binary64.ofDecimal false 35 (-3)) :=
        within_share 35 3 (by decide) (by decide)
      rcases exists_heightShare known small with ⟨product, share, multiplied, rounded⟩
      refine ⟨_, bind_ok.mpr ⟨product, multiplied, bind_ok.mpr ⟨share, rounded, rfl⟩⟩, ?_⟩
      unfold Limit.smallestOverlayFont Limit.largestOverlayFont
      omega

/-- A measure that is a share of a letter size within the limits is no greater than the size and
one, unless its least value is. -/
theorem exists_sizeShare {size : Int} (low : 16 ≤ size) (high : size ≤ 160) {share : Binary64}
    (small : Within unitsPerOne share) (least : Int) :
    ∃ rounded, rounded.natAbs ≤ 161 ∧
      (do
        let product ← (Number.int size).mul (.float share)
        return max least (← Number.roundHalfUp product)) = .ok (max least rounded) := by
  rw [← Nat.one_mul unitsPerOne] at small
  have short : size.natAbs ≤ 160 := by omega
  rcases Number.exists_roundedProduct short small (by decide) (by decide) with
    ⟨product, rounded, multiplied, made, near⟩
  exact ⟨rounded, near, bind_ok.mpr ⟨product, multiplied, bind_ok.mpr ⟨rounded, made, rfl⟩⟩⟩

/-- A block that is not too high can be placed. -/
theorem exists_overlayStartY (anchor : Anchor) {frameHeight totalHeight : Int}
    (short : (frameHeight - totalHeight).natAbs ≤ 2 ^ 73) :
    ∃ startY, overlayStartY anchor frameHeight totalHeight = .ok startY := by
  unfold overlayStartY
  cases anchor.row with
  | top => exact ⟨_, rfl⟩
  | bottom => exact ⟨_, rfl⟩
  | center =>
      have held : Held (2 ^ 73 * unitsPerOne) := held_two_pow (by decide)
      have scaled := Nat.mul_le_mul_right unitsPerOne short
      have below := Nat.le_trans scaled
        (Nat.le_mul_of_pos_right (2 ^ 73 * unitsPerOne) (show 0 < 2 by decide))
      rcases Number.exists_div_int (by decide) held below with ⟨middle, halved, within⟩
      rcases Number.roundHalfUp_float within.isFinite with ⟨rounded, made⟩
      exact exists_bind halved (exists_bind made ⟨_, rfl⟩)

/-- A block of lines of a size within the limits is no higher than its lines allow. -/
theorem natAbs_totalHeight_le {size spacing : Int} (count : Nat) (low : 16 ≤ size)
    (high : size ≤ 160) (near : 0 ≤ spacing ∧ spacing ≤ 161) :
    (StatusLayout.totalHeight size spacing count).natAbs ≤ 321 * count + 161 := by
  have letters : 0 ≤ size * count ∧ size * count ≤ 160 * count :=
    ⟨Int.mul_nonneg (by omega) (by omega), Int.mul_le_mul_of_nonneg_right high (by omega)⟩
  have gaps : 0 ≤ spacing * count ∧ spacing * count ≤ 161 * count :=
    ⟨Int.mul_nonneg near.1 (by omega), Int.mul_le_mul_of_nonneg_right near.2 (by omega)⟩
  unfold StatusLayout.totalHeight
  rw [Int.mul_sub, Int.mul_one]
  omega

/-- With letters of a size within the limits, only the top of the block is left to be found. -/
theorem statusLayout_of_size {setting : Value} {frameHeight size : Int}
    (sized : overlayFontSize setting frameHeight = .ok size) (low : 16 ≤ size)
    (high : size ≤ 160) (count : Nat) (anchor : Anchor) :
    ∃ spacing border, (6 ≤ spacing ∧ spacing ≤ 161) ∧
      statusLayout count frameHeight setting anchor = do
        let startY ← overlayStartY anchor frameHeight
          (StatusLayout.totalHeight size spacing count)
        return { size, spacing, border, startY } := by
  have third : Within unitsPerOne (Binary64.ofDecimal false 3 (-1)) :=
    within_share 3 1 (by decide) (by decide)
  have quarter : Within unitsPerOne (Binary64.ofDecimal false 25 (-2)) :=
    within_share 25 2 (by decide) (by decide)
  rcases exists_sizeShare low high third 6 with ⟨spacing, near, spaced⟩
  rcases exists_sizeShare low high quarter 4 with ⟨border, _, bordered⟩
  refine ⟨max 6 spacing, max 4 border, by omega, ?_⟩
  unfold statusLayout
  rw [bind_of_ok sized]
  exact (bind_of_ok spaced _).trans (bind_of_ok bordered _)

/-- With letters of a size within the limits, a block that is not too high has its measures. -/
theorem exists_statusLayout_of_size {setting : Value} {frameHeight size : Int}
    (sized : overlayFontSize setting frameHeight = .ok size) (low : 16 ≤ size)
    (high : size ≤ 160) {count : Nat} (few : count < 2 ^ 63)
    (short : frameHeight.natAbs < 2 ^ 50) (anchor : Anchor) :
    ∃ layout, statusLayout count frameHeight setting anchor = .ok layout := by
  rcases statusLayout_of_size sized low high count anchor with ⟨spacing, border, near, laidOut⟩
  have block := natAbs_totalHeight_le count low high (And.intro (by omega) near.2)
  have room : (frameHeight - StatusLayout.totalHeight size spacing count).natAbs ≤ 2 ^ 73 := by
    omega
  rcases exists_overlayStartY anchor room with ⟨startY, placed⟩
  rw [laidOut]
  exact exists_bind placed ⟨_, rfl⟩

theorem exists_statusLayout {size : Value} {format : Format} (known : format ∈ Format.all)
    (limited : SizeWithinLimits size) {count : Nat} (few : count ≤ 5) (anchor : Anchor) :
    ∃ layout, statusLayout count format.height size anchor = .ok layout := by
  have heights : ∀ format ∈ Format.all, format.height.natAbs ≤ 1080 := by decide
  have height := heights format known
  rcases exists_overlayFontSize known limited with ⟨chosen, sized, low, high⟩
  exact exists_statusLayout_of_size sized low high (by omega) (by omega) anchor

theorem exists_statusFilters {lines : List String} (few : lines.length ≤ 5) {size : Value}
    (limited : SizeWithinLimits size) {format : Format} (known : format ∈ Format.all)
    (anchor : Anchor) (font : Font) :
    ∃ filters, statusFilters lines format size anchor font = .ok filters := by
  unfold statusFilters
  split
  case isTrue => exact ⟨_, rfl⟩
  case isFalse =>
      rcases exists_statusLayout known limited few anchor with ⟨layout, placed⟩
      exact exists_bind placed ⟨_, rfl⟩

end Overlay

end TestSignal
