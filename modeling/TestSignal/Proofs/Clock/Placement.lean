import TestSignal.Clock.Overlay
import TestSignal.Proofs.Expr.Reading
import TestSignal.Proofs.Number.Halves
import TestSignal.Proofs.Picture.Kinds

namespace TestSignal

open Binary64 Outcome

/-!
# The clock's lines stand one below the other

A position is a text: the position of the anchor, or that in brackets with a number added or
subtracted.  The offset of a line is read back from this text.

At a centre row the exact distance of a line from the anchor is a count of halves.  Lines are
a whole line height apart and rounding half up commutes with adding an integer, so the rounded
offsets are as far apart.  Two lines that mirror each other have opposite distances, and
their offsets are opposite up to the one half that each may gain.  A bottom block is placed in
reverse and grows upward; both reversals together leave the reading order.
-/

/-- The integer that a numeral without a point is. -/
def Numeral.integer? : Numeral → Option Int
  | integer value => some value
  | _ => none

namespace Clock

/-! ## Offsets in texts -/

/-- An integer that is added or subtracted. -/
def summand? : List Char → Option Int
  | '+' :: amount => (Numeral.read? amount).bind Numeral.integer?
  | '-' :: amount => ((Numeral.read? amount).bind Numeral.integer?).map Neg.neg
  | _ => none

/-- The number of pixels that a position adds to its base. -/
def shiftIn? (base y : String) : Option Int :=
  if y = base then some 0
  else (y.toList.dropPrefix? ("(" ++ base ++ ")").toList).bind fun cut => summand? cut

/-- The offset of a line in its block, as it is written. -/
def lineOffset? (base : String) (index total lineHeight : Int) (row : Row) : Option Int :=
  (lineY base index total (.int lineHeight) row).toOption.bind fun y => shiftIn? base y

theorem shiftIn?_self (base : String) : shiftIn? base base = some 0 := if_pos rfl

theorem shiftIn?_bracketed {base y : String} {rest : List Char}
    (written : y.toList = ("(" ++ base ++ ")").toList ++ rest) :
    shiftIn? base y = summand? rest := by
  have longer : y ≠ base := by
    rintro rfl
    have lengths := congrArg List.length written
    simp only [String.toList_append, List.length_append] at lengths
    have bracket : "(".toList.length = 1 := rfl
    omega
  unfold shiftIn?
  rw [if_neg longer, written, List.dropPrefix?_append_of_beq _ (beq_self_eq_true _)]
  rfl

/-- A shift is by an integer. -/
inductive LineShift.IsBy : LineShift → Int → Prop
  | none : IsBy .none 0
  | plus (amount : Int) : IsBy (.plus (.int amount)) amount
  | minus (amount : Int) : IsBy (.minus (.int amount)) (-amount)

/-- An integer is added, or its size is subtracted. -/
theorem LineShift.IsBy.ofSign (amount : Int) :
    LineShift.IsBy (if 0 ≤ amount then .plus (.int amount) else .minus (.int amount.natAbs))
      amount := by
  split
  case isTrue => exact .plus amount
  case isFalse negative =>
      have size : -(amount.natAbs : Int) = amount := by omega
      have moved := LineShift.IsBy.minus (amount.natAbs : Int)
      rwa [size] at moved

theorem amountText_int {amount : Int} (short : amount.natAbs < 2 ^ 53) :
    amountText (.int amount) = .ok (toString amount) := by
  have few : (Nat.toDigits 10 amount.natAbs).length ≤ 16 :=
    (Nat.length_toDigits_le_iff (by decide) (by decide)).mpr (Nat.lt_trans short (by decide))
  exact if_pos (Nat.le_trans few (by decide))

/-- A shift is read back from the position that it is applied to. -/
theorem LineShift.IsBy.exists_apply {shift : LineShift} {offset : Int} (is : shift.IsBy offset)
    (short : offset.natAbs < 2 ^ 53) (base : String) :
    ∃ y, shift.apply base = .ok y ∧ shiftIn? base y = some offset := by
  have written (sign : String) (amount : Int) :
      ("(" ++ base ++ (")" ++ sign) ++ toString amount).toList =
        ("(" ++ base ++ ")").toList ++ (sign.toList ++ (toString amount).toList) := by
    simp only [String.toList_append, List.append_assoc]
  cases is with
  | none => exact ⟨base, rfl, shiftIn?_self base⟩
  | plus =>
      refine ⟨_, bind_ok.mpr ⟨_, amountText_int short, rfl⟩, ?_⟩
      refine (shiftIn?_bracketed (written "+" offset)).trans ?_
      change (Numeral.read? (toString offset).toList).bind Numeral.integer? = _
      rw [Numeral.read?_integer]
      rfl
  | minus amount =>
      rw [Int.natAbs_neg] at short
      refine ⟨_, bind_ok.mpr ⟨_, amountText_int short, rfl⟩, ?_⟩
      refine (shiftIn?_bracketed (written "-" amount)).trans ?_
      change ((Numeral.read? (toString amount).toList).bind Numeral.integer?).map Neg.neg = _
      rw [Numeral.read?_integer]
      rfl

/-! ## Offsets of lines -/

/-- The offset of a line in its block: from a top row downward, from a bottom row upward, and at
a centre row from the middle of the block, counted in halves and rounded half up. -/
def offset (row : Row) (index total lineHeight : Int) : Int :=
  match row with
  | .top => index * lineHeight
  | .center => ((2 * index - (total - 1)) * lineHeight + 1) / 2
  | .bottom => -(index * lineHeight)

/-- The distance from a line to the next one in placement. -/
def stride (row : Row) (lineHeight : Int) : Int :=
  match row with
  | .bottom => -lineHeight
  | _ => lineHeight

/-- Rounding commutes with adding a line height, which is two halves for each pixel. -/
theorem offset_succ (row : Row) (index total lineHeight : Int) :
    offset row (index + 1) total lineHeight = offset row index total lineHeight +
      stride row lineHeight := by
  have next : (index + 1) * lineHeight = index * lineHeight + lineHeight := by
    rw [Int.add_mul, Int.one_mul]
  have halves : (2 * (index + 1) - (total - 1)) * lineHeight =
      (2 * index - (total - 1)) * lineHeight + 2 * lineHeight := by
    rw [← Int.add_mul]
    congr 1
    omega
  cases row with
  | top => exact next
  | center =>
      unfold offset stride
      dsimp only
      rw [halves]
      omega
  | bottom =>
      unfold offset stride
      dsimp only
      rw [next]
      omega

/-- Lines that mirror each other are offset alike, up to the pixel that rounding gains. -/
theorem natAbs_offset_add_mirror_le (index total lineHeight : Int) :
    (offset .center index total lineHeight +
      offset .center (total - 1 - index) total lineHeight).natAbs ≤ 1 := by
  have opposite : (2 * (total - 1 - index) - (total - 1)) * lineHeight =
      -((2 * index - (total - 1)) * lineHeight) := by
    rw [← Int.neg_mul]
    congr 1
    omega
  unfold offset
  dsimp only
  rw [opposite]
  omega

/-- A line that is less than a pixel away from the anchor is on it. -/
theorem eq_zero_of_between {place lineHeight : Int} (high : 2 ≤ lineHeight)
    (above : -2 < place * lineHeight) (below : place * lineHeight < 2) :
    place * lineHeight = 0 := by
  have small : place.natAbs * lineHeight.natAbs < 2 := by
    rw [← Int.natAbs_mul]
    omega
  have none : place.natAbs = 0 := by
    refine Nat.eq_zero_of_not_pos fun positive => ?_
    have := Nat.le_mul_of_pos_left lineHeight.natAbs positive
    omega
  rw [Int.natAbs_eq_zero.mp none, Int.zero_mul]

/-- A block of lines, and a place in it or near it, that binary64 counts the halves of. -/
structure Countable (index total lineHeight : Int) : Prop where
  lines : 1 ≤ total
  high : 2 ≤ lineHeight
  block : total * lineHeight < 2 ^ 50
  place : (index * lineHeight).natAbs < 2 ^ 51

/-- The lines of a block have such places. -/
theorem Countable.ofLine {index total lineHeight : Int} (low : 0 ≤ index) (inside : index < total)
    (high : 2 ≤ lineHeight) (block : total * lineHeight < 2 ^ 50) :
    Countable index total lineHeight where
  lines := by omega
  high := high
  block := block
  place := by
    have above : index * lineHeight ≤ total * lineHeight :=
      Int.mul_le_mul_of_nonneg_right (by omega) (by omega)
    have below : 0 ≤ index * lineHeight := Int.mul_nonneg low (by omega)
    omega

namespace Countable

variable {index total lineHeight : Int} (countable : Countable index total lineHeight)
include countable

theorem natAbs_index : index.natAbs < 2 ^ 51 := by
  have place := countable.place
  have high := countable.high
  rw [Int.natAbs_mul] at place
  exact Nat.lt_of_le_of_lt (Nat.le_mul_of_pos_right _ (by omega)) place

theorem total_lt : total < 2 ^ 50 := by
  have lines := countable.lines
  have high := countable.high
  have block := countable.block
  have wide : total * 1 ≤ total * lineHeight :=
    Int.mul_le_mul_of_nonneg_left (by omega) (by omega)
  omega

theorem lineHeight_le : lineHeight ≤ total * lineHeight := by
  have high := countable.high
  have tall := Int.mul_le_mul_of_nonneg_right countable.lines (show 0 ≤ lineHeight by omega)
  rwa [Int.one_mul] at tall

theorem lineHeight_lt : lineHeight < 2 ^ 50 :=
  Int.lt_of_le_of_lt countable.lineHeight_le countable.block

theorem natAbs_halves : ((2 * index - (total - 1)) * lineHeight).natAbs + 1 < 2 ^ 53 := by
  have parts : (2 * index - (total - 1)) * lineHeight =
      2 * (index * lineHeight) - total * lineHeight + lineHeight := by
    rw [Int.sub_mul, Int.sub_mul, Int.mul_assoc, Int.one_mul]
    omega
  have place := countable.place
  have block := countable.block
  have high := countable.high
  have tall := countable.lineHeight_le
  rw [parts]
  omega

/-- The distance of a line from the middle of its block is reached without rounding. -/
theorem exists_distance :
    ∃ distance : Binary64,
      distance.units? = some ((2 * index - (total - 1)) * lineHeight * unitsPerHalf) ∧
        ∀ next : Number → Except Fault LineShift,
          ((Number.int (total - 1)).div 2 >>= fun middle => (Number.int index).sub middle >>=
            fun place => place.mul (.int lineHeight) >>= next) = next (.float distance) := by
  have lines := countable.lines
  have high := countable.high
  have few := countable.total_lt
  have tall := countable.lineHeight_lt
  have near := countable.natAbs_index
  have narrow := countable.natAbs_halves
  rcases Number.exists_div_two (show (total - 1).natAbs < 2 ^ 53 by omega) with
    ⟨middle, halved, middleHalves⟩
  rcases Number.exists_int_sub middleHalves (show index.natAbs < 2 ^ 53 by omega) (by omega) with
    ⟨place, placed, placeHalves⟩
  rcases Number.exists_mul_int placeHalves (show lineHeight.natAbs < 2 ^ 53 by omega)
    (by omega) with ⟨distance, scaled, distanceHalves⟩
  refine ⟨distance, distanceHalves, fun next => ?_⟩
  rw [bind_of_ok halved, bind_of_ok placed, bind_of_ok scaled]

/-- At a centre row the base is kept only for a line that is on the anchor. -/
theorem exists_lineShift_center :
    ∃ shift, lineShift index total (.int lineHeight) .center = .ok shift ∧
      shift.IsBy (offset .center index total lineHeight) := by
  rcases countable.exists_distance with ⟨distance, halves, reached⟩
  have above : (Number.int (-1)).lt (.float distance) = decide (2 * -1 < _) :=
    Number.int_lt_halves halves
  have one : (1 : Number) = .int 1 := rfl
  have below : (Number.float distance).lt (.int 1) = decide (_ < (2 * 1 : Int)) :=
    Number.halves_lt_int halves
  have rounded := Number.roundHalfUp_of_halves halves countable.natAbs_halves
  unfold lineShift
  dsimp only
  rw [reached, one, above, below, ← Bool.decide_and, bind_of_ok rounded]
  unfold offset
  dsimp only
  by_cases centred : 2 * -1 < (2 * index - (total - 1)) * lineHeight ∧
      (2 * index - (total - 1)) * lineHeight < 2 * 1
  · rw [if_pos (decide_eq_true centred),
      eq_zero_of_between countable.high centred.1 centred.2]
    exact ⟨.none, rfl, .none⟩
  · rw [if_neg (by rwa [decide_eq_true_iff])]
    exact ⟨_, rfl, .ofSign _⟩

/-- Every line is placed at its offset. -/
theorem exists_lineShift (row : Row) :
    ∃ shift, lineShift index total (.int lineHeight) row = .ok shift ∧
      shift.IsBy (offset row index total lineHeight) := by
  have none : index = 0 → index * lineHeight = 0 := by
    rintro rfl
    exact Int.zero_mul _
  cases row with
  | center => exact countable.exists_lineShift_center
  | top =>
      unfold lineShift offset
      dsimp only
      split
      case isTrue first =>
          rw [none first]
          exact ⟨.none, rfl, .none⟩
      case isFalse => exact ⟨_, rfl, .plus _⟩
  | bottom =>
      unfold lineShift offset
      dsimp only
      split
      case isTrue first =>
          rw [none first]
          exact ⟨.none, rfl, .none⟩
      case isFalse => exact ⟨_, rfl, .minus _⟩

theorem natAbs_offset (row : Row) : (offset row index total lineHeight).natAbs < 2 ^ 53 := by
  have halves := countable.natAbs_halves
  have place := countable.place
  cases row <;> (unfold offset; dsimp only; omega)

/-- Every line can be placed, and its offset is read back from its position. -/
theorem exists_lineY (base : String) (row : Row) :
    ∃ y, lineY base index total (.int lineHeight) row = .ok y ∧
      shiftIn? base y = some (offset row index total lineHeight) := by
  rcases countable.exists_lineShift row with ⟨shift, shifted, is⟩
  rcases is.exists_apply (countable.natAbs_offset row) base with ⟨y, written, reads⟩
  exact ⟨y, bind_ok.mpr ⟨shift, shifted, written⟩, reads⟩

theorem lineOffset?_eq (base : String) (row : Row) :
    lineOffset? base index total lineHeight row = some (offset row index total lineHeight) := by
  rcases countable.exists_lineY base row with ⟨y, made, reads⟩
  unfold lineOffset?
  rw [made]
  exact reads

end Countable

/-! ## Sizes -/

/-- A frame whose height binary64 holds has letters of a moderate size. -/
theorem exists_fontSize {height : Int} (short : height.natAbs < 2 ^ 40) :
    ∃ size, fontSize height = .ok size ∧ 28 ≤ size ∧ size ≤ 2 ^ 46 := by
  have held : Held (2 ^ 40 * unitsPerOne) := held_integer (by decide)
  have below : height.natAbs * unitsPerOne ≤ 2 ^ 40 * unitsPerOne * 1080 :=
    Nat.le_trans (Nat.mul_le_mul_right _ (Nat.le_of_lt short))
      (Nat.le_mul_of_pos_right _ (by decide))
  rcases Number.exists_div_int (by decide) held below with ⟨part, divided, within⟩
  rcases Number.exists_roundedProduct (show (48 : Int).natAbs ≤ 48 by decide) within (by decide)
    (by decide) with ⟨share, rounded, scaled, made, near⟩
  refine ⟨max 28 rounded, ?_, by omega, by omega⟩
  exact bind_ok.mpr ⟨_, divided, bind_ok.mpr ⟨_, scaled, bind_ok.mpr ⟨_, made, rfl⟩⟩⟩

/-- A share of at most two of a moderate letter size is moderate. -/
theorem exists_shareOf {size : Int} (low : 28 ≤ size) (high : size ≤ 2 ^ 46) {share : Binary64}
    (small : Within (2 * unitsPerOne) share) (least : Int) :
    ∃ part, shareOf size (.float share) least = .ok part ∧ least ≤ part ∧
      part ≤ max least (2 ^ 47 + 1) := by
  have bounded : size.natAbs ≤ 2 ^ 46 := by omega
  rcases Number.exists_roundedProduct bounded small (by decide) (by decide) with
    ⟨product, rounded, scaled, made, near⟩
  refine ⟨max least rounded, ?_, by omega, by omega⟩
  exact bind_ok.mpr ⟨_, scaled, bind_ok.mpr ⟨_, made, rfl⟩⟩

/-- The lines of a clock are higher than its letters. -/
theorem exists_blockSizes {height : Int} (short : height.natAbs < 2 ^ 40) :
    ∃ sizes, blockSizes height = .ok sizes ∧ 28 ≤ sizes.font ∧ sizes.font < sizes.lineHeight ∧
      sizes.lineHeight < 2 ^ 48 := by
  have tenth : Within (2 * unitsPerOne) (Binary64.ofDecimal false 1 (-1)) :=
    within_ofDecimal 1 1 (by decide) (by decide) (by decide)
  have larger : Within (2 * unitsPerOne) (Binary64.ofDecimal false 12 (-1)) :=
    within_ofDecimal 12 1 (by decide) (by decide) (by decide)
  rcases exists_fontSize short with ⟨font, sized, low, high⟩
  rcases exists_shareOf low high tenth 3 with ⟨border, bordered, _⟩
  rcases exists_shareOf low high larger (font + 4) with ⟨lineHeight, lined, above, below⟩
  refine ⟨{ font, border, lineHeight }, ?_, low, ?_, ?_⟩
  · exact bind_ok.mpr ⟨_, sized, bind_ok.mpr ⟨_, bordered, bind_ok.mpr ⟨_, lined, rfl⟩⟩⟩
  · dsimp only
    omega
  · dsimp only
    omega

/-! ## The clock from top to bottom -/

/-- The next line in reading order is one line height below, also where it is placed before. -/
theorem offset_placementIndex_succ (row : Row) (index total : Nat) (lineHeight : Int) :
    offset row (placementIndex row (index + 1) total) total lineHeight =
      offset row (placementIndex row index total) total lineHeight + lineHeight := by
  cases row with
  | top => exact offset_succ .top index total lineHeight
  | center => exact offset_succ .center index total lineHeight
  | bottom =>
      have below : placementIndex .bottom index total =
          placementIndex .bottom (index + 1) total + 1 := by
        unfold placementIndex
        dsimp only
        omega
      rw [below, offset_succ]
      unfold stride
      dsimp only
      omega

theorem offset_placementIndex (row : Row) (index total : Nat) (lineHeight : Int) :
    offset row (placementIndex row index total) total lineHeight =
      offset row (placementIndex row 0 total) total lineHeight + index * lineHeight := by
  induction index with
  | zero => rw [Int.natCast_zero, Int.zero_mul, Int.add_zero]
  | succ index inductionHypothesis =>
      rw [offset_placementIndex_succ, inductionHypothesis, Int.natCast_succ, Int.add_mul,
        Int.one_mul, Int.add_assoc]

theorem placementIndex_mem (row : Row) {index total : Nat} (inside : index < total) :
    0 ≤ placementIndex row index total ∧ placementIndex row index total < total := by
  cases row <;> (unfold placementIndex; dsimp only; omega)

/-- A filter that draws a line of the clock so many pixels from the position of its anchor. -/
structure DrawsAt (sizes : BlockSizes) (base line : String) (offset : Int) (filter : Filter) :
    Prop where
  text : filter.option? "text" = some (.template line)
  letters : filter.option? "fontsize" = some (.int sizes.font)
  position : ∃ y, filter.option? "y" = some (.text y) ∧ shiftIn? base y = some offset

/-- One filter for each line, in order, each line one line height below the one before it. -/
structure Stacked (sizes : BlockSizes) (base : String) (lines : List String)
    (drawn : List Filter) : Prop where
  count : drawn.length = lines.length
  spaced : ∃ top : Int, ∀ (index : Nat) (line : String), lines[index]? = some line →
    ∃ filter, drawn[index]? = some filter ∧
      DrawsAt sizes base line (top + index * sizes.lineHeight) filter

theorem drawsAt_lineFilter {base y : String} {offset : Int} (reads : shiftIn? base y = some offset)
    (line : String) (font : Font) (sizes : BlockSizes) (x : String) :
    DrawsAt sizes base line offset (lineFilter line font sizes x y) := by
  cases font <;> exact ⟨rfl, rfl, y, rfl, reads⟩

/-- The lines of a clock are stacked in reading order, whatever the anchor. -/
theorem exists_filters_stacked {format : Format} (short : format.height.natAbs < 2 ^ 40)
    (timing : Timing) (anchor : Anchor) (font : Font) :
    ∃ drawn sizes, filters timing format anchor font = .ok drawn ∧
      blockSizes format.height = .ok sizes ∧
      0 < sizes.font ∧ sizes.font < sizes.lineHeight ∧
      Stacked sizes (Placement.clock anchor).y timing.lines drawn := by
  rcases exists_blockSizes short with ⟨sizes, sized, letters, taller, small⟩
  have count : (timing.lines.length : Int) = 3 := rfl
  have placed (index : Nat) (inside : index < timing.lines.length) :
      ∃ y, lineY (Placement.clock anchor).y
          (placementIndex anchor.row index timing.lines.length) timing.lines.length
          (.int sizes.lineHeight) anchor.row = .ok y ∧
        shiftIn? (Placement.clock anchor).y y =
          some (offset anchor.row (placementIndex anchor.row index timing.lines.length)
            timing.lines.length sizes.lineHeight) := by
    have place := placementIndex_mem anchor.row inside
    have block : timing.lines.length * sizes.lineHeight < 2 ^ 50 := by
      rw [count]
      omega
    exact (Countable.ofLine place.1 place.2 (by omega) block).exists_lineY _ _
  obtain ⟨drawn, made⟩ : ∃ drawn, filters timing format anchor font = .ok drawn := by
    refine exists_bind sized (exists_mapM ?_)
    rintro ⟨line, index⟩ member
    have bounds := List.mem_zipIdx member
    rcases placed index (by omega) with ⟨y, moved, _⟩
    exact exists_bind moved ⟨_, rfl⟩
  refine ⟨drawn, sizes, made, sized, by omega, taller, ?count,
    offset anchor.row (placementIndex anchor.row 0 timing.lines.length) timing.lines.length
      sizes.lineHeight, ?spaced⟩
  case count =>
    rcases bind_ok.mp made with ⟨_, _, made⟩
    exact (length_of_mapM_ok made).trans List.length_zipIdx
  case spaced =>
    intro index line listed
    have inside := (List.getElem?_eq_some_iff.mp listed).1
    have item : timing.lines.zipIdx[index]? = some (line, index) := by
      rw [List.getElem?_zipIdx, listed, Option.map_some, Nat.zero_add]
    rcases placed index inside with ⟨y, moved, reads⟩
    rw [offset_placementIndex] at reads
    rw [filters, bind_of_ok sized] at made
    rcases exists_getElem?_of_mapM_ok made item with ⟨filter, found, drawnBy⟩
    dsimp only at drawnBy
    rw [bind_of_ok moved] at drawnBy
    rw [← pure_ok.mp drawnBy] at found
    exact ⟨_, found, drawsAt_lineFilter reads line font sizes _⟩

/-- Lines of a clock neither overlap nor change places.  In a block that binary64 can count the
halves of, a line is placed exactly one line height from the next one in placement, downward
at a top or centre row and upward at a bottom row, and a centred block is symmetric up to one
pixel.  So the filters of a clock read in the order of its lines from top to bottom, one line
height apart, and a line is higher than its letters. -/
theorem lines_keep_distance :
    (∀ (base : String) (anchor : Anchor) (index total lineHeight : Int),
      1 ≤ total → 2 ≤ lineHeight → total * lineHeight < 2 ^ 50 →
      (index * lineHeight).natAbs < 2 ^ 50 →
        ∃ here next mirrored,
          lineOffset? base index total lineHeight anchor.row = some here ∧
          lineOffset? base (index + 1) total lineHeight anchor.row = some next ∧
          lineOffset? base (total - 1 - index) total lineHeight anchor.row = some mirrored ∧
          next - here = (if anchor.row = .bottom then -lineHeight else lineHeight) ∧
          (anchor.row = .center → (here + mirrored).natAbs ≤ 1)) ∧
      ∀ (timing : Timing) (format : Format) (anchor : Anchor) (font : Font),
        format.height.natAbs < 2 ^ 40 →
          ∃ drawn sizes, filters timing format anchor font = .ok drawn ∧
            blockSizes format.height = .ok sizes ∧
            0 < sizes.font ∧ sizes.font < sizes.lineHeight ∧
            Stacked sizes (Placement.clock anchor).y timing.lines drawn := by
  refine ⟨?_, fun timing format anchor font short =>
    exists_filters_stacked short timing anchor font⟩
  intro base anchor index total lineHeight lines high block place
  have next : (index + 1) * lineHeight = index * lineHeight + lineHeight := by
    rw [Int.add_mul, Int.one_mul]
  have mirrored : (total - 1 - index) * lineHeight =
      total * lineHeight - lineHeight - index * lineHeight := by
    rw [Int.sub_mul, Int.sub_mul, Int.one_mul]
  have here : Countable index total lineHeight := ⟨lines, high, block, by omega⟩
  have tall := here.lineHeight_le
  have after : Countable (index + 1) total lineHeight := ⟨lines, high, block, by omega⟩
  have opposite : Countable (total - 1 - index) total lineHeight :=
    ⟨lines, high, block, by rw [mirrored]; omega⟩
  refine ⟨_, _, _, here.lineOffset?_eq base anchor.row, after.lineOffset?_eq base anchor.row,
    opposite.lineOffset?_eq base anchor.row, ?spaced, ?symmetric⟩
  case spaced =>
    rw [offset_succ]
    cases anchor.row <;> (unfold stride; simp)
  case symmetric =>
    intro centred
    rw [centred]
    exact natAbs_offset_add_mirror_le index total lineHeight

/-- A centred block of two lines of odd height, and the clock of a frame of 1080 lines. -/
theorem lines_keep_distance_showcase :
    (1 ≤ (2 : Int) ∧ 2 ≤ (59 : Int) ∧ 2 * 59 < (2 : Int) ^ 50 ∧ (0 * 59 : Int).natAbs < 2 ^ 50 ∧
      ∃ here next mirrored,
        lineOffset? "(h-text_h)/2" 0 2 59 .center = some here ∧
        lineOffset? "(h-text_h)/2" (0 + 1) 2 59 .center = some next ∧
        lineOffset? "(h-text_h)/2" (2 - 1 - 0) 2 59 .center = some mirrored ∧
        next - here = 59 ∧ (here + mirrored).natAbs ≤ 1) ∧
      Format.standard.height.natAbs < 2 ^ 40 ∧
      ∃ drawn sizes,
        filters ⟨"SNTP", "UTC", "LOCAL", 0, 0, 0⟩ Format.standard .bottomRight (.named "Mono") =
          .ok drawn ∧
        blockSizes 1080 = .ok sizes ∧ 0 < sizes.font ∧ sizes.font < sizes.lineHeight ∧
        Stacked sizes "h-text_h-10" ["SNTP", "UTC", "LOCAL"] drawn := by
  have block : (2 * 59 : Int) < 2 ^ 50 := by decide
  have place : (0 * 59 : Int).natAbs < 2 ^ 50 := by decide
  have height : Format.standard.height.natAbs < 2 ^ 40 := by decide
  rcases lines_keep_distance with ⟨placed, drawn⟩
  rcases placed "(h-text_h)/2" .center 0 2 59 (by decide) (by decide) block place with
    ⟨here, next, mirrored, first, second, last, spaced, symmetric⟩
  exact ⟨⟨by decide, by decide, block, place, here, next, mirrored, first, second, last, spaced,
    symmetric rfl⟩, height,
    drawn ⟨"SNTP", "UTC", "LOCAL", 0, 0, 0⟩ .standard .bottomRight (.named "Mono") height⟩

end Clock

end TestSignal
