import TestSignal.Clock.Timing
import TestSignal.Proofs.Expr.Reading
import TestSignal.Proofs.Number.Written
import TestSignal.Proofs.Outcome

namespace TestSignal

open Outcome

/-!
# A line of the clock read back

A line is a title with five fields behind it: hours, minutes and seconds, the number of the
frame, and milliseconds.  Each field names an expression and a width, and a mark stands in
front of each.

A title may have anything in it, the name of a zone for instance, so a line is read from its
end.  A field has no percent sign after the one that it begins with, and the expression in it
has no colon, because the expression language has neither.
-/

namespace Clock

/-! ## Fields -/

/-- A field as it is written in a template. -/
structure TemplateField where
  expression : String
  width : Nat
  deriving DecidableEq

/-- The width that the end of a field asks for: decimal, padded with zeros. -/
def width? : List Char → Option Nat
  | ['d', ':', '0', width, '\x7d'] =>
      if width.isDigit then some (width.toNat - '0'.toNat) else none
  | _ => none

/-- Reads what stands behind the percent sign of a field. -/
def TemplateField.read? (text : List Char) : Option TemplateField := do
  let body ← text.dropPrefix? "\x7beif:".toList
  let (expression, format) := Text.cut ':' body
  let width ← width? format
  return { expression := String.ofList expression, width }

/-- The fields at the end of a text with a mark in front of each, and the text before them.
The marks are given from the last one on. -/
def readFields? : List Char → List Char → Option (List Char × List TemplateField)
  | [], text => some (text, [])
  | mark :: marks, text => do
      let (before, last) := Text.cutLast '%' text
      let field ← TemplateField.read? last
      let (title, fields) ← readFields? marks (← before.dropSuffix? [mark])
      return (title, fields ++ [field])

/-- The time of day as it is written on a line, behind the line's title. -/
structure WrittenTime where
  title : String
  hours : TemplateField
  minutes : TemplateField
  seconds : TemplateField
  frames : TemplateField
  millis : TemplateField
  deriving DecidableEq

/-- Reads a line: hours, minutes, seconds and frames with colons between them, and the
milliseconds behind a point. -/
def WrittenTime.read? (line : String) : Option WrittenTime :=
  match readFields? ['.', ':', ':', ':', ' '] line.toList with
  | some (title, [hours, minutes, seconds, frames, millis]) =>
      some { title := String.ofList title, hours, minutes, seconds, frames, millis }
  | _ => none

/-! ## What is written -/

def Field.written (field : Field) : TemplateField where
  expression := field.expr.text
  width := field.width

/-- A field that can be told from what stands around it. -/
structure Field.Separable (field : Field) : Prop where
  no_percent : '%' ∉ field.expr.text.toList
  no_colon : ':' ∉ field.expr.text.toList
  width_lt : field.width < 10

theorem Field.separable_of_readable {field : Field} (readable : field.expr.Readable)
    (narrow : field.width < 10) : field.Separable where
  no_percent := Expr.not_mem_text readable fun _ => rfl
  no_colon := Expr.not_mem_text readable fun _ => rfl
  width_lt := narrow

/-- The number of the frame has no mark in it, however its rate is written. -/
theorem separable_frameCounter {fps : Value} {frames : Field}
    (counted : frameCounter fps = .ok frames) : frames.Separable := by
  rcases bind_ok.mp counted with ⟨rate, _, made⟩
  rw [← pure_ok.mp made]
  have text : (Expr.mod (.symbol "n") (.short rate)).text.toList =
      "mod(n,".toList ++ ((Numeral.short rate).toText.toList ++ [')']) :=
    Expr.toList_call2 .mod (.symbol "n") (.short rate)
  have free {mark : Char} (around : mark ∉ "mod(n,".toList ∧ mark ∉ [')'])
      (foreign : isNumeral mark = false) :
      mark ∉ (Expr.mod (.symbol "n") (.short rate)).text.toList := by
    have number : mark ∉ (Numeral.short rate).toText.toList := fun member =>
      Bool.false_ne_true (foreign.symm.trans ((Numeral.short rate).isNumeral_toText mark member))
    rw [text, List.mem_append, List.mem_append, not_or, not_or]
    exact ⟨around.1, number, around.2⟩
  exact ⟨free (by decide) (by decide), free (by decide) (by decide), (show 2 < 10 by decide)⟩

/-- A width below ten is one digit. -/
theorem toList_width : ∀ width < 10, (toString width).toList = [Nat.digitChar width] ∧
    (Nat.digitChar width).isDigit = true ∧ (Nat.digitChar width).toNat - '0'.toNat = width ∧
    Nat.digitChar width ≠ '%' := by
  decide

/-! ## Reading back -/

namespace Field.Separable

variable {field : Field} (separable : field.Separable)
include separable

/-- A field is a percent sign, and behind it something that is read as the field. -/
theorem exists_toList_text : ∃ last, field.text.toList = '%' :: last ∧ '%' ∉ last ∧
    TemplateField.read? last = some field.written := by
  rcases toList_width field.width separable.width_lt with ⟨digit, isDigit, width, noPercent⟩
  let format := ['d', ':', '0', Nat.digitChar field.width, '\x7d']
  refine ⟨"\x7beif:".toList ++ (field.expr.text.toList ++ ':' :: format), ?_, ?_, ?_⟩
  · have begins : "%\x7beif:".toList = '%' :: "\x7beif:".toList := rfl
    have behind : ":d:0".toList = [':', 'd', ':', '0'] := rfl
    have ends : "\x7d".toList = ['\x7d'] := rfl
    unfold Field.text
    simp only [String.toList_append, digit, begins, behind, ends, List.append_assoc,
      List.cons_append, List.nil_append, format]
  · have inFormat : '%' ∉ ':' :: format := by
      simp [format, noPercent.symm]
    rw [List.mem_append, List.mem_append, not_or, not_or]
    exact ⟨by decide, separable.no_percent, inFormat⟩
  · have asked : width? format = some field.width := (if_pos isDigit).trans (congrArg some width)
    unfold TemplateField.read?
    rw [List.dropPrefix?_append_of_beq _ (beq_self_eq_true _), Option.bind_eq_bind,
      Option.bind_some, Text.cut_append separable.no_colon]
    dsimp only
    rw [asked, String.ofList_toList]
    rfl

/-- A field at the end of a text is taken off it, and so is the mark in front of it. -/
theorem readFields?_concat (mark : Char) (marks before : List Char) :
    readFields? (mark :: marks) (before ++ mark :: field.text.toList) =
      (readFields? marks before).map fun (title, fields) => (title, fields ++ [field.written]) := by
  rcases separable.exists_toList_text with ⟨last, text, free, read⟩
  have cut : Text.cutLast '%' (before ++ mark :: field.text.toList) = (before ++ [mark], last) := by
    rw [text, List.append_cons, Text.cutLast_append free]
  have marked : (before ++ [mark]).dropSuffix? [mark] = some before :=
    List.dropSuffix?_eq_some_iff.mpr ⟨[mark], rfl, beq_self_eq_true _⟩
  rw [readFields?, cut]
  dsimp only
  rw [read, marked, Option.map_eq_bind]
  rfl

end Field.Separable

/-- Every field of a time of day can be told from what stands around it. -/
structure TimeOfDay.Separable (time : TimeOfDay) : Prop where
  hours : time.hours.Separable
  minutes : time.minutes.Separable
  seconds : time.seconds.Separable
  millis : time.millis.Separable

/-- The time of day within a total, as a line has it. -/
def WrittenTime.ofTotal (title : String) (total : Expr) (frames : Field) : WrittenTime where
  title := title
  hours := (TimeOfDay.ofTotal total).hours.written
  minutes := (TimeOfDay.ofTotal total).minutes.written
  seconds := (TimeOfDay.ofTotal total).seconds.written
  frames := frames.written
  millis := (TimeOfDay.ofTotal total).millis.written

/-- A line of the clock is read as its title and its fields. -/
theorem read?_clockLine (title : String) {total : Expr} {frames : Field}
    (separable : (TimeOfDay.ofTotal total).Separable) (counter : frames.Separable) :
    WrittenTime.read? (Timing.clockLine title total frames) =
      some (.ofTotal title total frames) := by
  have chars : (Timing.clockLine title total frames).toList =
      ((((title.toList ++ ' ' :: (TimeOfDay.ofTotal total).hours.text.toList) ++
        ':' :: (TimeOfDay.ofTotal total).minutes.text.toList) ++
        ':' :: (TimeOfDay.ofTotal total).seconds.text.toList) ++ ':' :: frames.text.toList) ++
        '.' :: (TimeOfDay.ofTotal total).millis.text.toList := by
    have space : " ".toList = [' '] := rfl
    have colon : ":".toList = [':'] := rfl
    have point : ".".toList = ['.'] := rfl
    unfold Timing.clockLine TimeOfDay.hms
    simp only [String.toList_append, space, colon, point, List.append_assoc, List.cons_append,
      List.nil_append]
  unfold WrittenTime.read?
  rw [chars, separable.millis.readFields?_concat, counter.readFields?_concat,
    separable.seconds.readFields?_concat, separable.minutes.readFields?_concat,
    separable.hours.readFields?_concat, readFields?]
  simp only [Option.map_some, List.nil_append, List.cons_append, String.ofList_toList]
  rfl

end Clock

end TestSignal
