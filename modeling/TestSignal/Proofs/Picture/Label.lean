import TestSignal.Picture.Chain
import TestSignal.Proofs.Text

namespace TestSignal

namespace Picture

/-!
# Labels of stages

A stage is labelled by its kind and its number.  A kind is a word of letters and a
number begins with a digit, so a label can be cut back into the two, and stages
with different numbers have different labels whatever their kinds are.

A file's pad is the number of the input file with `:v` after it.  It begins with
a digit, a label with a kind does not, and a label has no colon: the two never meet.
The label of the finished picture is a word alone.
-/

/-! ## Words and digits -/

/-- A word has letters only. -/
def isWord (kind : String) : Bool := kind.toList.all Char.isAlpha

/-- The label of the stage of a kind with a number. -/
def stageLabel (kind : String) (index : Nat) : String := kind ++ toString index

theorem toList_stageLabel (kind : String) (index : Nat) :
    (stageLabel kind index).toList = kind.toList ++ Nat.toDigits 10 index := by
  rw [stageLabel, String.toList_append, Nat.toString_eq_repr, Nat.toList_repr]

theorem toDigits_eq_cons (index : Nat) :
    ∃ first rest, Nat.toDigits 10 index = first :: rest ∧ first.isDigit = true := by
  cases digits : Nat.toDigits 10 index with
  | nil => exact absurd digits Nat.toDigits_ne_nil
  | cons first rest =>
      have member : first ∈ Nat.toDigits 10 index := by
        rw [digits]
        exact List.mem_cons_self
      exact ⟨first, rest, rfl, Nat.isDigit_of_mem_toDigits (by decide) (by decide) member⟩

/-- The letters in front of a label are its kind. -/
theorem takeWhile_stageLabel {kind : String} (word : isWord kind = true) (index : Nat) :
    (stageLabel kind index).toList.takeWhile Char.isAlpha = kind.toList := by
  rcases toDigits_eq_cons index with ⟨first, rest, digits, digit⟩
  rw [toList_stageLabel, List.takeWhile_append_of_pos (List.all_eq_true.mp word), digits,
    List.takeWhile_cons_of_neg (by rw [Text.isAlpha_of_isDigit digit]; exact Bool.false_ne_true),
    List.append_nil]

/-- What follows the letters in front of a label are the digits of its number. -/
theorem dropWhile_stageLabel {kind : String} (word : isWord kind = true) (index : Nat) :
    (stageLabel kind index).toList.dropWhile Char.isAlpha = Nat.toDigits 10 index := by
  rcases toDigits_eq_cons index with ⟨first, rest, digits, digit⟩
  rw [toList_stageLabel, List.dropWhile_append_of_pos (List.all_eq_true.mp word), digits,
    List.dropWhile_cons_of_neg (by rw [Text.isAlpha_of_isDigit digit]; exact Bool.false_ne_true)]

/-- Stages with one label have one number, also when their kinds are not known to agree. -/
theorem stageLabel_index {kind other : String} {index place : Nat}
    (word : isWord kind = true) (otherWord : isWord other = true)
    (same : stageLabel kind index = stageLabel other place) : index = place := by
  have digits : Nat.toDigits 10 index = Nat.toDigits 10 place := by
    rw [← dropWhile_stageLabel word index, ← dropWhile_stageLabel otherWord place, same]
  have values := congrArg (fun digits => Nat.ofDigitChars 10 digits 0) digits
  simpa only [Nat.ofDigitChars_ten_toDigits] using values

/-- A label ends in a digit, so it is never the label of the finished picture. -/
theorem stageLabel_ne_outputPad {kind : String} (word : isWord kind = true) (index : Nat) :
    stageLabel kind index ≠ Chain.outputPad := by
  intro same
  have digits := dropWhile_stageLabel word index
  rw [same] at digits
  have none : Chain.outputPad.toList.dropWhile Char.isAlpha = [] := by decide
  exact Nat.toDigits_ne_nil (digits.symm.trans none)

theorem stageLabel_ne_empty (kind : String) (index : Nat) :
    (stageLabel kind index).isEmpty = false := by
  rcases toDigits_eq_cons index with ⟨first, rest, digits, _⟩
  rw [Bool.eq_false_iff]
  intro empty
  have characters := toList_stageLabel kind index
  rw [String.isEmpty_iff.mp empty, digits] at characters
  simp at characters

/-! ## Pads of files -/

/-- A pad of an input file: a decimal number, and `:v` for its picture. -/
def isFilePad (pad : String) : Bool :=
  !(pad.toList.takeWhile Char.isDigit).isEmpty &&
    pad.toList.dropWhile Char.isDigit == [':', 'v']

theorem colon_mem_of_isFilePad {pad : String} (file : isFilePad pad = true) :
    ':' ∈ pad.toList := by
  have parts := Bool.and_eq_true_iff.mp file
  rw [← List.takeWhile_append_dropWhile (p := Char.isDigit) (l := pad.toList),
    eq_of_beq parts.2]
  simp

/-- No label of a stage is a file's pad. -/
theorem isFilePad_stageLabel {kind : String} (word : isWord kind = true) (index : Nat) :
    isFilePad (stageLabel kind index) = false := by
  rw [Bool.eq_false_iff]
  intro file
  have colon := colon_mem_of_isFilePad file
  rw [toList_stageLabel] at colon
  rcases List.mem_append.mp colon with inKind | inDigits
  · exact absurd (List.all_eq_true.mp word ':' inKind) (by decide)
  · exact absurd (Nat.isDigit_of_mem_toDigits (by decide) (by decide) inDigits) (by decide)

/-! ## The labels of a list of steps -/

/-- The labels that the stages of some steps get, counted from a number. -/
def labelsFrom (start : Nat) : List Step → List String
  | [] => []
  | step :: rest => stageLabel step.kind start :: labelsFrom (start + 1) rest

/-- Every label is one of its steps' kinds with a number not below the first. -/
theorem eq_stageLabel_of_mem {start : Nat} {steps : List Step} {label : String}
    (member : label ∈ labelsFrom start steps) :
    ∃ step ∈ steps, ∃ index, start ≤ index ∧ label = stageLabel step.kind index := by
  induction steps generalizing start with
  | nil => exact absurd member List.not_mem_nil
  | cons step rest ih =>
      rcases List.mem_cons.mp member with here | later
      · exact ⟨step, List.mem_cons_self, start, Nat.le_refl start, here⟩
      · rcases ih later with ⟨found, inRest, index, bound, same⟩
        exact ⟨found, List.mem_cons_of_mem _ inRest, index, by omega, same⟩

/-- No label of a list of steps is a file's pad. -/
theorem isFilePad_of_mem_labelsFrom {steps : List Step}
    (words : ∀ step ∈ steps, isWord step.kind = true) {start : Nat} {label : String}
    (member : label ∈ labelsFrom start steps) : isFilePad label = false := by
  rcases eq_stageLabel_of_mem member with ⟨step, inSteps, index, _, same⟩
  rw [same]
  exact isFilePad_stageLabel (words step inSteps) index

theorem outputPad_not_mem_labelsFrom {steps : List Step}
    (words : ∀ step ∈ steps, isWord step.kind = true) (start : Nat) :
    Chain.outputPad ∉ labelsFrom start steps := by
  intro member
  rcases eq_stageLabel_of_mem member with ⟨step, inSteps, index, _, same⟩
  exact stageLabel_ne_outputPad (words step inSteps) index same.symm

/-- The labels of a list of steps are pairwise distinct. -/
theorem nodup_labelsFrom {steps : List Step} (words : ∀ step ∈ steps, isWord step.kind = true)
    (start : Nat) : (labelsFrom start steps).Nodup := by
  induction steps generalizing start with
  | nil => exact List.nodup_nil
  | cons step rest ih =>
      rw [labelsFrom, List.nodup_cons]
      constructor
      · -- The kinds may agree, but every later number is greater.
        intro repeated
        rcases eq_stageLabel_of_mem repeated with ⟨other, inRest, index, bound, same⟩
        have number := stageLabel_index (words step List.mem_cons_self)
          (words other (List.mem_cons_of_mem _ inRest)) same
        omega
      · exact ih (fun other inRest => words other (List.mem_cons_of_mem _ inRest)) (start + 1)

end Picture

end TestSignal
