import TestSignal.Proofs.Device.Choice
import TestSignal.Proofs.Text.Lines

namespace TestSignal

namespace Device

/-!
# Listings are read back

A line shows a sink by its name in brackets at the end, and whatever stands before the first
opening bracket is not looked at.  The name may hold brackets of its own: the last bracket of
the line is never one of the name, because only blanks come after it.  So a listing that is put
together from such lines, with any other lines among them, gives the names back.
-/

/-! ## Lines of a listing -/

/-- A line that shows a sink: what stands before its name, the name, and blanks at the end. -/
structure Entry where
  lead : String
  name : String
  trail : String
  proper : IsProperName name
  unopened : '[' ∉ lead.toList
  blank : ∀ c ∈ trail.toList, Text.isBlank c = true
  lead_isLine : Text.IsLine lead.toList
  name_isLine : Text.IsLine name.toList
  trail_isLine : Text.IsLine trail.toList

def Entry.chars (entry : Entry) : List Char :=
  entry.lead.toList ++ '[' :: entry.name.toList ++ ']' :: entry.trail.toList

/-- A line that ends in no closing bracket, whatever blanks it has after its end. -/
structure Remark where
  text : String
  unclosed : ∀ body blanks, (∀ c ∈ blanks, Text.isBlank c = true) →
    text.toList ≠ body ++ ']' :: blanks
  isLine : Text.IsLine text.toList

inductive Line where
  | sink (entry : Entry)
  | other (remark : Remark)

namespace Line

def chars : Line → List Char
  | sink entry => entry.chars
  | other remark => remark.text.toList

/-- The name that a line shows, if it shows a sink. -/
def name? : Line → Option String
  | sink entry => some entry.name
  | other _ => none

theorem isLine_chars (line : Line) : Text.IsLine line.chars := by
  cases line with
  | other remark => exact remark.isLine
  | sink entry =>
      have opening : Text.IsLine ['['] := by decide
      have closing : Text.IsLine [']'] := by decide
      have named := opening.append entry.name_isLine
      exact (entry.lead_isLine.append named).append (closing.append entry.trail_isLine)

end Line

/-! ## One line -/

/-- The last closing bracket is the one that has only blanks after it. -/
theorem beforeFinalBracket?_append (body : List Char) {blanks : List Char}
    (blank : ∀ c ∈ blanks, Text.isBlank c = true) :
    beforeFinalBracket? (body ++ ']' :: blanks) = some body := by
  have reversed : (body ++ ']' :: blanks).reverse = blanks.reverse ++ ']' :: body.reverse := by
    simp
  have dropped : (blanks.reverse ++ ']' :: body.reverse).dropWhile Text.isBlank =
      ']' :: body.reverse := by
    rw [List.dropWhile_append_of_pos fun c member => blank c (List.mem_reverse.mp member)]
    rfl
  simp only [beforeFinalBracket?, reversed, dropped, List.reverse_reverse]

/-- A line is cut at a closing bracket only if it is put together from one and blanks. -/
theorem eq_append_of_beforeFinalBracket? {line body : List Char}
    (cut : beforeFinalBracket? line = some body) :
    ∃ blanks, (∀ c ∈ blanks, Text.isBlank c = true) ∧ line = body ++ ']' :: blanks := by
  unfold beforeFinalBracket? at cut
  split at cut
  case h_2 => cases cut
  case h_1 reversed dropped =>
      cases cut
      refine ⟨(line.reverse.takeWhile Text.isBlank).reverse, ?_, ?_⟩
      · intro c member
        exact List.mem_takeWhile_imp (List.mem_reverse.mp member)
      · have whole : line.reverse.takeWhile Text.isBlank ++ line.reverse.dropWhile Text.isBlank =
            line.reverse := List.takeWhile_append_dropWhile
        rw [dropped] at whole
        calc
          line = line.reverse.reverse := line.reverse_reverse.symm
          _ = (line.reverse.takeWhile Text.isBlank ++ ']' :: reversed).reverse := by rw [whole]
          _ = reversed.reverse ++ ']' :: (line.reverse.takeWhile Text.isBlank).reverse := by simp

/-- What stands before the first opening bracket is passed over. -/
theorem afterBracket?_append {lead : List Char} (unopened : '[' ∉ lead) (rest : List Char) :
    afterBracket? (lead ++ '[' :: rest) = some rest := by
  induction lead with
  | nil => rfl
  | cons c lead inductionHypothesis =>
      rw [List.mem_cons, not_or] at unopened
      have other : ¬(c == '[') = true := fun same => unopened.1 (beq_iff_eq.mp same).symm
      rw [List.cons_append, afterBracket?, if_neg other, inductionHypothesis unopened.2]

theorem Entry.sinkName? (entry : Entry) :
    Device.sinkName? (String.ofList entry.chars) = some entry.name := by
  have trimmed : Text.trimBy Text.isBlank entry.name.toList = entry.name.toList := by
    have same := congrArg String.toList entry.proper.trimmed
    rwa [Text.trim, String.toList_ofList] at same
  have nonempty : entry.name.toList.isEmpty = false := by
    rw [List.isEmpty_eq_false_iff]
    exact fun empty => entry.proper.nonempty (String.toList_eq_nil_iff.mp empty)
  unfold Device.sinkName? Entry.chars
  simp only [String.toList_ofList, beforeFinalBracket?_append _ entry.blank,
    afterBracket?_append entry.unopened, trimmed, nonempty, String.ofList_toList,
    Option.bind_eq_bind, Option.bind_some, Bool.false_eq_true, if_false]

theorem Remark.sinkName? (remark : Remark) : Device.sinkName? remark.text = none := by
  cases cut : beforeFinalBracket? remark.text.toList with
  | none =>
      unfold Device.sinkName?
      rw [cut]
      rfl
  | some body =>
      rcases eq_append_of_beforeFinalBracket? cut with ⟨blanks, blank, same⟩
      exact absurd same (remark.unclosed body blanks blank)

theorem Line.sinkName? (line : Line) :
    Device.sinkName? (String.ofList line.chars) = line.name? := by
  cases line with
  | sink entry => exact entry.sinkName?
  | other remark =>
      change Device.sinkName? (String.ofList remark.text.toList) = none
      rw [String.ofList_toList]
      exact remark.sinkName?

/-! ## Listings -/

/--
A listing is read back.  When lines are joined by line ends of any kind, the names found are
those of the lines that show sinks, in order and as often as they are shown.
-/
theorem sinkNames_joined {lines : List Line} {listing : String}
    (joined : Text.Joined (lines.map Line.chars) listing.toList) :
    sinkNames listing = lines.filterMap Line.name? := by
  have areLines : ∀ line ∈ lines.map Line.chars, Text.IsLine line := by
    intro line member
    rcases List.mem_map.mp member with ⟨source, _, rfl⟩
    exact source.isLine_chars
  have emptyLine : Device.sinkName? (String.ofList []) = none := by decide
  have read := @Text.filterMap_lineChars_joined _
    (fun line => Device.sinkName? (String.ofList line)) emptyLine _ _ areLines joined
  calc
    sinkNames listing =
        (Text.lineChars listing.toList).filterMap fun line =>
          Device.sinkName? (String.ofList line) := by
      rw [sinkNames, Text.lines, List.filterMap_map]
      rfl
    _ = lines.filterMap fun line => Device.sinkName? (String.ofList line.chars) := by
      rw [read, List.filterMap_map]
      rfl
    _ = lines.filterMap Line.name? := by
      simp only [Line.sinkName?]

/-- A line that the search for a name finds no closing bracket in. -/
def Remark.ofText (text : String) (uncut : beforeFinalBracket? text.toList = none)
    (isLine : Text.IsLine text.toList) : Remark where
  text := text
  unclosed body blanks blank same := by
    rw [same, beforeFinalBracket?_append body blank] at uncut
    cases uncut
  isLine := isLine

/-- A sink whose name has brackets in it and ends in one. -/
def bracketedEntry : Entry where
  lead := "  0x1 "
  name := "Duo [2] [B]"
  trail := "\t "
  proper := { nonempty := by decide, trimmed := by decide }
  unopened := by decide
  blank := List.all_eq_true.mp (by decide)
  lead_isLine := by decide
  name_isLine := by decide
  trail_isLine := by decide

/-- A heading, the same sink twice, and a line that has a name in brackets but goes on. -/
def showcaseLines : List Line :=
  [ .other (.ofText "Sinks for decklink:" (by decide) (by decide)),
    .sink bracketedEntry,
    .other (.ofText "[warning] busy" (by decide) (by decide)),
    .sink bracketedEntry ]

/-- The lines with three kinds of line ends between them. -/
def showcaseListing : String :=
  "Sinks for decklink:\r\n  0x1 [Duo [2] [B]]\t \u2028[warning] busy\x0b  0x1 [Duo [2] [B]]\t "

theorem sinkNames_joined_showcase :
    Text.Joined (showcaseLines.map Line.chars) showcaseListing.toList ∧
      sinkNames showcaseListing = ["Duo [2] [B]", "Duo [2] [B]"] := by
  have joined : Text.Joined (showcaseLines.map Line.chars) showcaseListing.toList := by
    have last := Text.Joined.last bracketedEntry.chars
    have tabulation : Text.IsLineEnd ['\x0b'] := .single (by decide)
    have separator : Text.IsLineEnd ['\u2028'] := .single (by decide)
    have third := @Text.Joined.before "[warning] busy".toList _ _ _ tabulation last
    have second := @Text.Joined.before bracketedEntry.chars _ _ _ separator third
    exact @Text.Joined.before "Sinks for decklink:".toList _ _ _ .pair second
  exact ⟨joined, sinkNames_joined joined⟩

end Device

end TestSignal
