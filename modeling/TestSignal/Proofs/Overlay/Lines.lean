import TestSignal.Overlay.Text
import TestSignal.Proofs.Filter.Unescape
import TestSignal.Proofs.Outcome
import TestSignal.Proofs.Picture.Kinds

namespace TestSignal

open Outcome

/-!
# A text is drawn line by line

A line of a text ends at a line feed or at a backslash with an `n` after it.  No line has either
in it, and there is only one way to cut a text so: a pair cannot reach into a break, because a
break begins with neither an `n` nor, after its backslash, with another one.

The cut is made in two passes, and the first may put a line feed behind a lone backslash.  It
is still the cut of the text, since the backslash that stays behind ends its line.  When a line
is printed its breaks are looked for once more; there are none, and no character is printed as
a line break.
-/

/-! ## Lines and breaks -/

namespace Text

/-- A text without a line feed, and without a backslash that has an `n` after it. -/
structure Unbroken (text : List Char) : Prop where
  no_feed : '\n' ∉ text
  no_pair : text.IsChain fun c next => ¬(c = '\x5c' ∧ next = 'n')

/-- The two spellings of a line break. -/
inductive IsBreak : List Char → Prop
  | feed : IsBreak ['\n']
  | pair : IsBreak ['\x5c', 'n']

/-- A text cut at all its breaks. -/
inductive CutAtBreaks : List Char → List (List Char) → Prop
  | last {line : List Char} : Unbroken line → CutAtBreaks line [line]
  | before {line mark rest : List Char} {lines : List (List Char)} :
      Unbroken line → IsBreak mark → CutAtBreaks rest lines →
        CutAtBreaks (line ++ mark ++ rest) (line :: lines)

theorem unbroken_nil : Unbroken [] := ⟨List.not_mem_nil, .nil⟩

theorem unbroken_cons_iff {c : Char} {rest : List Char} :
    Unbroken (c :: rest) ↔ c ≠ '\n' ∧ (c = '\x5c' → 'n' ∉ rest.head?) ∧ Unbroken rest := by
  constructor
  · rintro ⟨noFeed, noPair⟩
    rw [List.mem_cons, not_or] at noFeed
    rcases List.isChain_cons.mp noPair with ⟨here, later⟩
    exact ⟨Ne.symm noFeed.1, fun begins ends => here 'n' ends ⟨begins, rfl⟩, noFeed.2, later⟩
  · rintro ⟨other, here, noFeed, noPair⟩
    refine ⟨List.not_mem_cons_of_ne_of_not_mem other.symm noFeed,
      List.isChain_cons.mpr ⟨?_, noPair⟩⟩
    rintro _ ends ⟨begins, rfl⟩
    exact here begins ends

theorem unbroken_cons {c : Char} {rest : List Char} (noFeed : c ≠ '\n') (plain : c ≠ '\x5c')
    (unbroken : Unbroken rest) : Unbroken (c :: rest) :=
  unbroken_cons_iff.mpr ⟨noFeed, fun backslash => absurd backslash plain, unbroken⟩

/-- A backslash is no break in front of a character that makes no pair. -/
theorem unbroken_backslash {c : Char} {rest : List Char} (other : c ≠ 'n')
    (unbroken : Unbroken (c :: rest)) : Unbroken ('\x5c' :: c :: rest) :=
  unbroken_cons_iff.mpr ⟨by decide, fun _ ends => other (Option.some.inj ends), unbroken⟩

/-- No break begins with the second character of a pair. -/
theorem IsBreak.head?_append {mark : List Char} (isBreak : IsBreak mark) (rest : List Char) :
    'n' ∉ (mark ++ rest).head? := by
  intro begins
  cases isBreak <;> cases begins

end Text

namespace Overlay

open Text OptionValue

/-! ## The two passes -/

/-- The first pass leaves a line alone that is not followed by the rest of a pair. -/
theorem mergeLineBreaks_append {line rest : List Char} (unbroken : Unbroken line)
    (apart : 'n' ∉ rest.head?) : mergeLineBreaks (line ++ rest) = line ++ mergeLineBreaks rest := by
  rw [mergeLineBreaks_eq, mergeLineBreaks_eq]
  induction line with
  | nil => rfl
  | cons c line inductionHypothesis =>
      rcases unbroken_cons_iff.mp unbroken with ⟨_, here, later⟩
      have noPair : c = '\x5c' → 'n' ∉ (line ++ rest).head? := by
        intro begins
        cases line with
        | nil => exact apart
        | cons next line => exact here begins
      exact (replacePair_cons noPair).trans (congrArg (c :: ·) (inductionHypothesis later))

theorem mergeLineBreaks_unbroken {line : List Char} (unbroken : Unbroken line) :
    mergeLineBreaks line = line := by
  have ended : 'n' ∉ ([] : List Char).head? := by decide
  have alone := mergeLineBreaks_append unbroken ended
  simpa only [List.append_nil, mergeLineBreaks] using alone

/-- The first pass makes every break a line feed. -/
theorem mergeLineBreaks_break {mark : List Char} (isBreak : IsBreak mark) (rest : List Char) :
    mergeLineBreaks (mark ++ rest) = '\n' :: mergeLineBreaks rest := by
  cases isBreak with
  | feed => exact mergeLineBreaks.eq_2 _ _ fun _ backslash => absurd backslash (by decide)
  | pair => rfl

theorem cutAtLineFeeds_append {line : List Char} (unbroken : Unbroken line) (rest : List Char) :
    cutAtLineFeeds (line ++ '\n' :: rest) = line :: cutAtLineFeeds rest := by
  induction line with
  | nil => rfl
  | cons c line inductionHypothesis =>
      rcases unbroken_cons_iff.mp unbroken with ⟨other, _, later⟩
      rw [List.cons_append, cutAtLineFeeds, inductionHypothesis later,
        if_neg (other ∘ beq_iff_eq.mp)]

theorem cutAtLineFeeds_unbroken {line : List Char} (unbroken : Unbroken line) :
    cutAtLineFeeds line = [line] := by
  induction line with
  | nil => rfl
  | cons c line inductionHypothesis =>
      rcases unbroken_cons_iff.mp unbroken with ⟨other, _, later⟩
      rw [cutAtLineFeeds, inductionHypothesis later, if_neg (other ∘ beq_iff_eq.mp)]

/-! ## The cut -/

/-- However a text is cut at all its breaks, the two passes cut it so. -/
theorem eq_of_cutAtBreaks {text : List Char} {lines : List (List Char)}
    (cut : CutAtBreaks text lines) : lines = cutAtLineFeeds (mergeLineBreaks text) := by
  induction cut with
  | last unbroken => rw [mergeLineBreaks_unbroken unbroken, cutAtLineFeeds_unbroken unbroken]
  | before unbroken isBreak _ inductionHypothesis =>
      rw [List.append_assoc, mergeLineBreaks_append unbroken (isBreak.head?_append _),
        mergeLineBreaks_break isBreak, cutAtLineFeeds_append unbroken, inductionHypothesis]

/-- A character that begins no break goes to the front of the first line. -/
theorem cutAtBreaks_cons {c : Char} {text line : List Char} {more : List (List Char)}
    (other : c ≠ '\n') (noPair : c = '\x5c' → 'n' ∉ text.head?)
    (cut : CutAtBreaks text (line :: more)) : CutAtBreaks (c :: text) ((c :: line) :: more) := by
  cases cut with
  | last unbroken => exact .last (unbroken_cons_iff.mpr ⟨other, noPair, unbroken⟩)
  | @before _ mark rest _ unbroken isBreak later =>
      refine .before (unbroken_cons_iff.mpr ⟨other, fun begins => ?_, unbroken⟩) isBreak later
      cases line with
      | nil => exact Option.not_mem_none _
      | cons next line => exact noPair begins

/-- The two passes cut a text at all its breaks. -/
theorem cutAtBreaks_passes (text : List Char) :
    CutAtBreaks text (cutAtLineFeeds (mergeLineBreaks text)) := by
  fun_induction mergeLineBreaks text with
  | case1 rest inductionHypothesis => exact .before unbroken_nil .pair inductionHypothesis
  | case2 c rest noBreak inductionHypothesis =>
      have noPair : c = '\x5c' → 'n' ∉ rest.head? := by
        intro begins ends
        cases rest with
        | nil => cases ends
        | cons next rest =>
            exact noBreak rest begins (congrArg (· :: rest) (Option.some.inj ends))
      by_cases feed : c = '\n'
      · rw [feed]
        exact .before unbroken_nil .feed inductionHypothesis
      · rw [cutAtLineFeeds, if_neg (feed ∘ beq_iff_eq.mp)]
        cases cut : cutAtLineFeeds (mergeLineBreaks rest) with
        | nil =>
            rw [cut] at inductionHypothesis
            cases inductionHypothesis
        | cons line more =>
            rw [cut] at inductionHypothesis
            exact cutAtBreaks_cons feed noPair inductionHypothesis
  | case3 => exact .last unbroken_nil

theorem unbroken_of_cutAtBreaks {text line : List Char} {lines : List (List Char)}
    (cut : CutAtBreaks text lines) (member : line ∈ lines) : Unbroken line := by
  induction cut with
  | last unbroken =>
      rw [List.mem_singleton.mp member]
      exact unbroken
  | before unbroken _ _ inductionHypothesis =>
      rcases List.mem_cons.mp member with rfl | later
      · exact unbroken
      · exact inductionHypothesis later

/-- The lines of a text. -/
def LinesOf (text : String) (lines : List String) : Prop :=
  CutAtBreaks text.toList (lines.map String.toList)

theorem map_toList_textLines (text : String) :
    (textLines text).map String.toList = cutAtLineFeeds (mergeLineBreaks text.toList) := by
  unfold textLines
  rw [List.map_map]
  exact List.map_id'' (fun _ => String.toList_ofList) _

/-- A text has lines, and only one list of them. -/
theorem linesOf_iff {text : String} {lines : List String} :
    LinesOf text lines ↔ lines = textLines text := by
  constructor
  · intro cut
    have same := eq_of_cutAtBreaks cut
    rw [← map_toList_textLines] at same
    exact List.map_injective_iff.mpr (fun _ _ => String.toList_injective) same
  · rintro rfl
    unfold LinesOf
    rw [map_toList_textLines]
    exact cutAtBreaks_passes text.toList

theorem unbroken_of_mem_textLines {text line : String} (member : line ∈ textLines text) :
    Unbroken line.toList :=
  unbroken_of_cutAtBreaks (linesOf_iff.mpr rfl) (List.mem_map_of_mem member)

/-! ## Printed lines -/

theorem head?_escaped {expand : Bool} {line rest : List Char} (apart : 'n' ∉ rest.head?)
    (begins : 'n' ∈ (line.flatMap (escapedChar expand) ++ rest).head?) : 'n' ∈ line.head? := by
  cases line with
  | nil => exact absurd begins apart
  | cons c line =>
      rw [List.flatMap_cons, List.append_assoc] at begins
      revert begins
      refine escapedChar_cases ?_ ?_ ?_ ?_ ?_ ?_ c
      · exact nofun
      · exact nofun
      · exact nofun
      · exact nofun
      · cases expand <;> exact nofun
      · exact fun c _ begins => begins

/-- The escapes of a line make no break, in front of a text that has none either. -/
theorem unbroken_escaped {line rest : List Char} (unbroken : Unbroken line) (expand : Bool)
    (after : Unbroken rest) (apart : 'n' ∉ rest.head?) :
    Unbroken (line.flatMap (escapedChar expand) ++ rest) := by
  induction line with
  | nil => exact after
  | cons c line inductionHypothesis =>
      rcases unbroken_cons_iff.mp unbroken with ⟨other, here, later⟩
      have escaped := inductionHypothesis later
      have behind : c = '\x5c' → 'n' ∉ (line.flatMap (escapedChar expand) ++ rest).head? :=
        fun begins ends => here begins (head?_escaped apart ends)
      rw [List.flatMap_cons, List.append_assoc]
      revert other behind
      refine escapedChar_cases ?backslash ?lineFeed ?apostrophe ?colon ?percent ?other c
      case backslash =>
        intro other behind
        exact unbroken_backslash (by decide) (unbroken_cons_iff.mpr ⟨other, behind, escaped⟩)
      case lineFeed => exact fun noFeed => absurd rfl noFeed
      case apostrophe =>
        intro noFeed _
        exact unbroken_backslash (by decide) (unbroken_cons noFeed (by decide) escaped)
      case colon =>
        intro noFeed _
        exact unbroken_backslash (by decide) (unbroken_cons noFeed (by decide) escaped)
      case percent =>
        intro noFeed _
        have once := unbroken_cons noFeed (by decide) escaped
        cases expand with
        | true => exact once
        | false => exact unbroken_cons noFeed (by decide) once
      case other => exact fun c plain noFeed _ => unbroken_cons noFeed plain.1 escaped

/-- A line without breaks is printed without one. -/
theorem unbroken_render {line : String} (unbroken : Unbroken line.toList) :
    Unbroken (OptionValue.literal line).render.toList := by
  have quoted : Unbroken ['\x27'] := unbroken_cons (by decide) (by decide) unbroken_nil
  have written : (OptionValue.literal line).render.toList =
      '\x27' :: (line.toList.flatMap (escapedChar false) ++ ['\x27']) := by
    change ("'" ++ escapeText false line ++ "'").toList = _
    unfold escapeText
    rw [mergeLineBreaks_unbroken unbroken]
    simp only [String.toList_append, String.toList_ofList]
    rfl
  rw [written]
  exact unbroken_cons (by decide) (by decide)
    (unbroken_escaped unbroken false quoted (by decide))

/-- A line feed is printed as a text that has a pair in it. -/
theorem not_infix_of_unbroken {text : List Char} (unbroken : Unbroken text) :
    ¬escapedChar false '\n' <:+: text := by
  intro inside
  have unpaired := unbroken.no_pair.infix inside
  exact absurd unpaired (by decide)

/-! ## Filters -/

/-- A filter that draws the line of an index among a count of lines, and prints no break. -/
structure DrawsLine (style : TextStyle) (anchor : Anchor) (count : Nat) (line : String)
    (index : Nat) (filter : Filter) : Prop where
  text : filter.option? "text" = some (.literal line)
  unbroken : Unbroken line.toList
  printed : ¬escapedChar false '\n' <:+: (OptionValue.literal line).render.toList
  position : ∃ y, filter.option? "y" = some (.text y) ∧
    textLineY (Placement.text anchor).y anchor.row index count style.size = .ok y

theorem lookup_borderParams {weight color : Value} {params : List (String × OptionValue)}
    (made : borderParams weight color = .ok params) : params.lookup "y" = none := by
  rcases bind_ok.mp made with ⟨width, _, made⟩
  cases width <;> (rw [← pure_ok.mp made]; rfl)

theorem lookup_boxParams {style : Value} {size : Number} {params : List (String × OptionValue)}
    (made : boxParams style size = .ok params) : params.lookup "y" = none := by
  rcases bind_ok.mp made with ⟨color, _, made⟩
  cases color with
  | none =>
      rw [← pure_ok.mp made]
      rfl
  | some color =>
      rcases bind_ok.mp made with ⟨share, _, made⟩
      rcases bind_ok.mp made with ⟨border, _, made⟩
      rw [← pure_ok.mp made]
      rfl

theorem drawsLine_textFilter {style : TextStyle} {anchor : Anchor} {line : String}
    {index count : Nat} {filter : Filter} (unbroken : Unbroken line.toList)
    (made : textFilter style anchor line index count = .ok filter) :
    DrawsLine style anchor count line index filter := by
  rcases bind_ok.mp made with ⟨border, bordered, made⟩
  rcases bind_ok.mp made with ⟨box, boxed, made⟩
  rcases bind_ok.mp made with ⟨y, placed, made⟩
  rw [← pure_ok.mp made]
  constructor
  case text => rfl
  case unbroken => exact unbroken
  case printed => exact not_infix_of_unbroken (unbroken_render unbroken)
  case position =>
    refine ⟨y, ?_, placed⟩
    unfold Filter.option?
    dsimp only
    rw [List.lookup_append, List.lookup_append, List.lookup_append, lookup_borderParams bordered,
      lookup_boxParams boxed]
    cases style.font <;> rfl

/-- The lines that are not blank, with their indexes among all lines. -/
def inkedLines (lines : List String) : List (String × Nat) :=
  lines.zipIdx.filter fun entry => hasInk entry.1

theorem map_fst_inkedLines (lines : List String) :
    (inkedLines lines).map Prod.fst = lines.filter hasInk := by
  have kept : (lines.zipIdx.map Prod.fst).filter hasInk = (inkedLines lines).map Prod.fst :=
    List.filter_map
  rw [← kept, List.zipIdx_map_fst]

theorem drawsLine_of_textFilters {text : String} {style : TextStyle} {anchor : Anchor}
    {filters : List Filter} (made : textFilters text style anchor = .ok filters) :
    List.Forall₂ (fun entry filter =>
        DrawsLine style anchor (textLines text).length entry.1 entry.2 filter)
      (inkedLines (textLines text)) filters := by
  have unbroken : ∀ entry ∈ inkedLines (textLines text), Unbroken entry.1.toList := by
    intro entry member
    have listed := List.mem_map_of_mem (f := Prod.fst) member
    rw [map_fst_inkedLines] at listed
    exact unbroken_of_mem_textLines (List.mem_filter.mp listed).1
  have each := (List.forall₂_and_left _ _).mpr ⟨unbroken, forall₂_of_mapM_ok made⟩
  exact each.imp fun entry filter both => drawsLine_textFilter both.1 both.2

theorem map_text_of_drawsLine {style : TextStyle} {anchor : Anchor} {count : Nat}
    {entries : List (String × Nat)} {filters : List Filter}
    (drawn : List.Forall₂ (fun entry filter =>
      DrawsLine style anchor count entry.1 entry.2 filter) entries filters) :
    filters.map (fun filter => filter.option? "text") =
      entries.map fun entry => some (.literal entry.1) := by
  induction drawn with
  | nil => rfl
  | cons draws _ inductionHypothesis =>
      rw [List.map_cons, List.map_cons, draws.text, inductionHypothesis]

/--
A text is shown completely and in order.  It has one list of lines, and what is drawn are those
that are not blank, one filter each, with no break in them and none printed, at the place of
their index among all lines.
-/
theorem textFilters_show_lines {text : String} {style : TextStyle} {anchor : Anchor}
    {filters : List Filter} (made : textFilters text style anchor = .ok filters) :
    ∃ lines, (∀ cut, LinesOf text cut ↔ cut = lines) ∧
      filters.map (fun filter => filter.option? "text") =
        (lines.filter hasInk).map (fun line => some (.literal line)) ∧
      List.Forall₂ (fun entry filter =>
          DrawsLine style anchor lines.length entry.1 entry.2 filter)
        (inkedLines lines) filters := by
  have drawn := drawsLine_of_textFilters made
  refine ⟨textLines text, fun _ => linesOf_iff, ?_, drawn⟩
  rw [map_text_of_drawsLine drawn, ← map_fst_inkedLines, List.map_map]
  rfl

/-- A line that ends in a backslash, a blank one, and two that a line feed breaks. -/
def brokenText : String := "A\\\\n \\nB\nC"

def plainStyle : TextStyle where
  font := .named "Mono"
  size := 80
  color := .string "white"
  weight := .string "normal"
  background := .string "none"

theorem textFilters_show_lines_showcase :
    ∃ filters, textFilters brokenText plainStyle .center = .ok filters ∧
      filters.map (fun filter => filter.option? "text") =
        [some (.literal "A\\"), some (.literal "B"), some (.literal "C")] ∧
      List.Forall₂ (fun entry filter =>
          DrawsLine plainStyle .center 4 entry.1 entry.2 filter)
        [("A\\", 0), ("B", 2), ("C", 3)] filters := by
  have finishes : (textFilters brokenText plainStyle .center).isOk = true := by decide +kernel
  have cut : textLines brokenText = ["A\\", " ", "B", "C"] := by decide
  have inked : inkedLines ["A\\", " ", "B", "C"] = [("A\\", 0), ("B", 2), ("C", 3)] := by decide
  rcases exists_ok finishes with ⟨filters, made⟩
  rcases textFilters_show_lines made with ⟨lines, only, texts, drawn⟩
  rw [← (only _).mp (linesOf_iff.mpr rfl), cut] at texts drawn
  rw [inked] at drawn
  exact ⟨filters, made, texts, drawn⟩

end Overlay

end TestSignal
