import Mathlib.Algebra.Group.Int.Defs
import TestSignal.Proofs.Number.Between
import TestSignal.Proofs.Overlay.Drawn
import TestSignal.Proofs.Picture.Kinds

namespace TestSignal

open Binary64 Outcome

/-!
# The status block inside its margins

The measures of a block are made one from the other: the size of the letters from a setting or
from the frame height, the gap between lines from the size, the height of the block from both,
and its top from that height and the anchor.  The size is within its limits whatever the
setting is, so every later measure is of moderate size and no step of arithmetic rounds.

A block that leaves room for both margins is exactly as far from the bottom of the frame as the
anchor says.  Half of an odd difference is rounded up, so a centred block stands at most one
pixel below the middle, and never below the margin.
-/

namespace Overlay

/-! ## The size of the letters -/

/-- Whatever the setting, the letters are of a size within the limits. -/
theorem overlayFontSize_within {setting : Value} {frameHeight size : Int}
    (sized : overlayFontSize setting frameHeight = .ok size) : 16 ≤ size ∧ size ≤ 160 := by
  rcases bind_ok.mp sized with ⟨given, _, sized⟩
  dsimp only at sized
  split at sized
  case h_1 number usable =>
      rcases Option.filter_eq_some_iff.mp usable with ⟨made, between⟩
      rcases Option.map_eq_some_iff.mp made with ⟨x, _, rfl⟩
      rcases Bool.and_eq_true_iff.mp between with ⟨above, below⟩
      rcases Number.exists_place_of_le above below with ⟨units, placed, least, most⟩
      rcases Number.exists_roundHalfUp_between 16 160 (Number.place_float_iff.mp placed) least
        most (by decide) with ⟨rounded, cut, low, high⟩
      rw [cut] at sized
      rw [← Except.ok.inj sized]
      exact ⟨low, high⟩
  case h_2 =>
      rcases bind_ok.mp sized with ⟨product, _, sized⟩
      rcases bind_ok.mp sized with ⟨share, _, sized⟩
      rw [← pure_ok.mp sized]
      unfold Limit.smallestOverlayFont Limit.largestOverlayFont
      omega

/-! ## The top of the block -/

/-- No block starts in the upper margin. -/
theorem le_overlayStartY {anchor : Anchor} {frameHeight totalHeight startY : Int}
    (placed : overlayStartY anchor frameHeight totalHeight = .ok startY) : 50 ≤ startY := by
  unfold overlayStartY at placed
  cases row : anchor.row with
  | top =>
      rw [row] at placed
      rw [← pure_ok.mp placed]
      decide
  | bottom =>
      rw [row] at placed
      rw [← pure_ok.mp placed]
      exact Int.le_max_left _ _
  | center =>
      rw [row] at placed
      rcases bind_ok.mp placed with ⟨middle, _, placed⟩
      rcases bind_ok.mp placed with ⟨rounded, _, placed⟩
      rw [← pure_ok.mp placed]
      exact Int.le_max_left _ _

/-- A block that leaves room for both margins ends above the lower one, and at a centre row the
room is shared out evenly. -/
theorem overlayStartY_of_room {anchor : Anchor} {frameHeight totalHeight startY : Int}
    (placed : overlayStartY anchor frameHeight totalHeight = .ok startY)
    (room : totalHeight ≤ frameHeight - 100) (short : frameHeight - totalHeight < 2 ^ 50) :
    startY + totalHeight ≤ frameHeight - 50 ∧
      (anchor.row = .center → (frameHeight - (startY + totalHeight) - startY).natAbs ≤ 1) := by
  unfold overlayStartY margin at placed
  cases row : anchor.row with
  | top =>
      rw [row] at placed
      rw [← pure_ok.mp placed]
      exact ⟨by omega, nofun⟩
  | bottom =>
      rw [row] at placed
      rw [← pure_ok.mp placed]
      exact ⟨by omega, nofun⟩
  | center =>
      -- Half of the room is exact, so the block is moved by its rounding alone.
      have narrow : (frameHeight - totalHeight).natAbs < 2 ^ 53 := by omega
      rcases Number.exists_div_two narrow with ⟨middle, halved, counted⟩
      have rounded := Number.roundHalfUp_of_halves counted (by omega)
      rw [row] at placed
      dsimp only at placed
      rw [bind_of_ok halved, bind_of_ok rounded] at placed
      rw [← pure_ok.mp placed]
      exact ⟨by omega, fun _ => by omega⟩

/-! ## The measures of a block -/

/-- The height of a block of lines with these measures. -/
def StatusLayout.height (layout : StatusLayout) (count : Nat) : Int :=
  totalHeight layout.size layout.spacing count

/-- The letters of the last line end where the block ends. -/
theorem StatusLayout.lineY_last (layout : StatusLayout) {count : Nat} (some : 0 < count) :
    layout.lineY (count - 1) + layout.size = layout.startY + layout.height count := by
  have last : ((count - 1 : Nat) : Int) = count - 1 := by omega
  unfold lineY stride height totalHeight
  rw [last, Int.mul_add, Int.mul_comm _ layout.spacing, Int.sub_mul, Int.one_mul,
    Int.mul_comm layout.size]
  omega

/-- A block of lines that keeps inside its margins. -/
structure InsideMargins (layout : StatusLayout) (row : Row) (frameHeight : Int) (count : Nat) :
    Prop where
  letters : 16 ≤ layout.size ∧ layout.size ≤ 160
  gap : 6 ≤ layout.spacing
  top : 50 ≤ layout.startY
  /-- The block goes from the top of its first line to the end of its last. -/
  whole : layout.lineY (count - 1) + layout.size = layout.startY + layout.height count
  bottom : layout.height count ≤ frameHeight - 100 →
    layout.startY + layout.height count ≤ frameHeight - 50
  /-- The margins above and below a centred block differ by at most one pixel. -/
  middle : row = .center → layout.height count ≤ frameHeight - 100 →
    (frameHeight - (layout.startY + layout.height count) - layout.startY).natAbs ≤ 1

theorem totalHeight_nonneg {size spacing : Int} (letters : 0 ≤ size) (gap : 0 ≤ spacing)
    {count : Nat} (some : 0 < count) : 0 ≤ StatusLayout.totalHeight size spacing count :=
  Int.add_nonneg (Int.mul_nonneg letters (by omega)) (Int.mul_nonneg gap (by omega))

/-- Every block that is laid out keeps inside its margins. -/
theorem insideMargins_of_statusLayout {count : Nat} (some : 0 < count) {frameHeight : Int}
    (short : frameHeight < 2 ^ 50) {setting : Value} {size : Int}
    (sized : overlayFontSize setting frameHeight = .ok size) {anchor : Anchor}
    {layout : StatusLayout} (laidOut : statusLayout count frameHeight setting anchor = .ok layout) :
    layout.size = size ∧ InsideMargins layout anchor.row frameHeight count := by
  rcases overlayFontSize_within sized with ⟨low, high⟩
  rcases statusLayout_of_size sized low high count anchor with ⟨spacing, border, near, made⟩
  rcases bind_ok.mp (made.symm.trans laidOut) with ⟨startY, placed, made⟩
  rw [← pure_ok.mp made]
  let block : StatusLayout := { size, spacing, border, startY }
  have nonneg : 0 ≤ StatusLayout.totalHeight size spacing count :=
    totalHeight_nonneg (Int.le_trans (by decide) low) (Int.le_trans (by decide) near.1) some
  have roomy (room : StatusLayout.totalHeight size spacing count ≤ frameHeight - 100) :=
    overlayStartY_of_room placed room (by omega)
  exact ⟨rfl, ⟨low, high⟩, near.1, le_overlayStartY placed, block.lineY_last some,
    fun room => (roomy room).1, fun centred room => (roomy room).2 centred⟩

/-! ## The filters of a block -/

/-- One filter for each line, in order, each line lower than the one before it by the size of the
letters and the gap. -/
structure StackedLines (layout : StatusLayout) (lines : List String) (drawn : List Filter) :
    Prop where
  count : drawn.length = lines.length
  spaced : ∀ (index : Nat) (line : String), lines[index]? = some line →
    ∃ filter, drawn[index]? = some filter ∧
      filter.option? "text" = some (.literal line) ∧
      filter.option? "fontsize" = some (.int layout.size) ∧
      filter.option? "y" =
        some (.int (layout.startY + index * (layout.size + layout.spacing)))

theorem stackedLines_statusFilter (layout : StatusLayout) (x : String) (font : Font)
    (lines : List String) :
    StackedLines layout lines
      (lines.zipIdx.map fun (line, index) => statusFilter layout x font line index) where
  count := by rw [List.length_map, List.length_zipIdx]
  spaced index line placed := by
    refine ⟨statusFilter layout x font line index, ?_, ?_⟩
    · rw [List.getElem?_map, List.getElem?_zipIdx, placed, Nat.zero_add]
      rfl
    · cases font <;> exact ⟨rfl, rfl, rfl⟩

/-- A block with a line has filters exactly when it has measures, which they are drawn in. -/
theorem statusFilters_ok {lines : List String} (some : lines ≠ []) {format : Format}
    {setting : Value} {anchor : Anchor} {font : Font} {filters : List Filter} :
    statusFilters lines format setting anchor font = .ok filters ↔
      ∃ layout, statusLayout lines.length format.height setting anchor = .ok layout ∧
        (lines.zipIdx.map fun (line, index) =>
          statusFilter layout (overlayX anchor) font line index) = filters := by
  unfold statusFilters
  rw [if_neg (some ∘ List.isEmpty_iff.mp), bind_ok]
  simp only [pure_ok]

/-- A status block with a line is drawn inside its margins, whatever size of letters is asked
for: its lines follow each other without overlap, and where both margins have room neither is
touched, with the block in the middle if the anchor says so. -/
theorem status_inside_margins {lines : List String} (some : lines ≠ []) {format : Format}
    (positive : 0 < format.height) (short : format.height < 2 ^ 50) {setting : Value} {size : Int}
    (sized : overlayFontSize setting format.height = .ok size) (anchor : Anchor) (font : Font) :
    (lines.length < 2 ^ 63 → ∃ filters,
      statusFilters lines format setting anchor font = .ok filters) ∧
    ∀ filters, statusFilters lines format setting anchor font = .ok filters →
      ∃ layout, statusLayout lines.length format.height setting anchor = .ok layout ∧
        layout.size = size ∧
        InsideMargins layout anchor.row format.height lines.length ∧
        StackedLines layout lines filters := by
  have count : 0 < lines.length := List.length_pos_iff.mpr some
  rcases overlayFontSize_within sized with ⟨low, high⟩
  constructor
  · intro few
    rcases exists_statusLayout_of_size sized low high few (by omega) anchor with
      ⟨layout, laidOut⟩
    exact ⟨_, (statusFilters_ok some).mpr ⟨layout, laidOut, rfl⟩⟩
  · intro filters made
    rcases (statusFilters_ok some).mp made with ⟨layout, laidOut, rfl⟩
    rcases insideMargins_of_statusLayout count short sized laidOut with ⟨same, inside⟩
    exact ⟨layout, laidOut, same, inside, stackedLines_statusFilter layout _ font lines⟩

theorem status_inside_margins_showcase :
    overlayFontSize .null Format.standard.height = .ok 38 ∧
      ∃ filters layout,
        statusFilters ["Tone", "Flash"] Format.standard .null .center (.named "Mono") =
          .ok filters ∧
        layout.size = 38 ∧ InsideMargins layout .center 1080 2 ∧
        StackedLines layout ["Tone", "Flash"] filters := by
  have sized : overlayFontSize .null Format.standard.height = .ok 38 := by decide +kernel
  have inside := status_inside_margins (List.cons_ne_nil "Tone" ["Flash"]) (by decide)
    (by decide) sized .center (.named "Mono")
  rcases inside.1 (by decide) with ⟨filters, made⟩
  rcases inside.2 filters made with ⟨layout, _, same, margins, stacked⟩
  exact ⟨sized, filters, layout, made, same, margins, stacked⟩

end Overlay

end TestSignal
