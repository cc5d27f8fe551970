import TestSignal.Proofs.Text

namespace TestSignal

namespace Text

/-!
# Texts that are put together from lines

A text is cut where its lines end, so lines that are put together with ends between them come
back.  There is one exception.  A carriage return and a line feed after it end one line
together, so an empty line between the two is lost.  Whoever passes over empty lines does not
see the difference, and reads exactly the lines that were put together.
-/

/-- A text in which no line ends. -/
def IsLine (line : List Char) : Prop := ∀ c ∈ line, endsLine c = false

instance (line : List Char) : Decidable (IsLine line) :=
  List.decidableBAll (fun c => endsLine c = false) line

/-- What stands between two lines: a character that ends lines, or the pair that ends one. -/
inductive IsLineEnd : List Char → Prop
  | single {c : Char} : endsLine c = true → IsLineEnd [c]
  | pair : IsLineEnd ['\r', '\n']

/-- Lines with an end between each two of them, and perhaps one after the last. -/
inductive Joined : List (List Char) → List Char → Prop
  | empty : Joined [] []
  | last (line : List Char) : Joined [line] line
  | before {line mark rest : List Char} {lines : List (List Char)} :
      IsLineEnd mark → Joined lines rest → Joined (line :: lines) (line ++ mark ++ rest)

theorem IsLine.append {left right : List Char} (first : IsLine left) (second : IsLine right) :
    IsLine (left ++ right) :=
  List.forall_mem_append.mpr ⟨first, second⟩

/-! ## One line -/

/-- A character that ends no line goes to the front of the first one. -/
theorem lineChars_cons {c : Char} (inside : endsLine c = false) (rest : List Char) :
    lineChars (c :: rest) = consToFirst c (lineChars rest) := by
  rw [lineChars.eq_3 c rest, if_neg (by simp [inside])]
  rintro more rfl rfl
  exact absurd inside (by decide)

/-- A line reaches up to the first end. -/
theorem lineChars_append {line text : List Char} {more : List (List Char)} (isLine : IsLine line)
    (ended : lineChars text = [] :: more) : lineChars (line ++ text) = line :: more := by
  induction line with
  | nil => exact ended
  | cons c line inductionHypothesis =>
      rcases List.forall_mem_cons.mp isLine with ⟨inside, others⟩
      rw [List.cons_append, lineChars_cons inside, inductionHypothesis others]
      rfl

theorem lineChars_of_isLine {line : List Char} (isLine : IsLine line) (nonempty : line ≠ []) :
    lineChars line = [line] := by
  induction line with
  | nil => exact absurd rfl nonempty
  | cons c line inductionHypothesis =>
      rcases List.forall_mem_cons.mp isLine with ⟨inside, others⟩
      rw [lineChars_cons inside]
      cases line with
      | nil => rfl
      | cons next line =>
          rw [inductionHypothesis others (List.cons_ne_nil next line)]
          rfl

/-! ## Lines that are joined -/

section Joined

variable {α : Type} {read : List Char → Option α} (passes : read [] = none)

include passes

/-- An end ends one line.  Of what follows it may take an empty line with it. -/
theorem exists_lineChars_end {mark : List Char} (isEnd : IsLineEnd mark) (rest : List Char) :
    ∃ more, lineChars (mark ++ rest) = [] :: more ∧
      more.filterMap read = (lineChars rest).filterMap read := by
  cases isEnd with
  | pair => exact ⟨lineChars rest, rfl, rfl⟩
  | @single c ends =>
      by_cases pair : c = '\r' ∧ ∃ more, rest = '\n' :: more
      · rcases pair with ⟨rfl, more, rfl⟩
        refine ⟨lineChars more, rfl, ?_⟩
        have fed : lineChars ('\n' :: more) = [] :: lineChars more := rfl
        rw [fed, List.filterMap_cons_none passes]
      · refine ⟨lineChars rest, ?_, rfl⟩
        change lineChars (c :: rest) = _
        rw [lineChars.eq_3 c rest, if_pos ends]
        exact fun more isReturn isFeed => pair ⟨isReturn, more, isFeed⟩

/-- What is read from lines that were joined is what is read from each of them. -/
theorem filterMap_lineChars_joined {lines : List (List Char)} {text : List Char}
    (areLines : ∀ line ∈ lines, IsLine line) (joined : Joined lines text) :
    (lineChars text).filterMap read = lines.filterMap read := by
  induction joined with
  | empty => rfl
  | last line =>
      have isLine := areLines line List.mem_cons_self
      cases line with
      | nil => exact (List.filterMap_cons_none passes).symm
      | cons c line => rw [lineChars_of_isLine isLine (List.cons_ne_nil c line)]
  | @before line mark rest lines isEnd _ inductionHypothesis =>
      rcases List.forall_mem_cons.mp areLines with ⟨isLine, others⟩
      rcases exists_lineChars_end passes isEnd rest with ⟨more, ended, same⟩
      rw [List.append_assoc, lineChars_append isLine ended, List.filterMap_cons,
        List.filterMap_cons, same, inductionHypothesis others]

end Joined

/-! ## The last line -/

theorem lineChars_ne_nil {text : List Char} (nonempty : text ≠ []) : lineChars text ≠ [] := by
  fun_cases lineChars text with
  | case1 => exact absurd rfl nonempty
  | case2 rest => exact List.cons_ne_nil _ _
  | case3 c rest _ ends => exact List.cons_ne_nil _ _
  | case4 c rest _ inside =>
      cases lineChars rest <;> exact List.cons_ne_nil _ _

theorem EndsIn.of_cons {class? : Char → Bool} {c : Char} {text : List Char}
    (ends : EndsIn class? (c :: text)) : EndsIn class? text := by
  intro last isLast
  cases text with
  | nil => cases isLast
  | cons next text => exact ends last (by rwa [List.getLast?_cons_cons])

/-- A text after which nothing but a line stands has that line as its last one. -/
theorem lineChars_append_line {earlier line : List Char} (ended : EndsIn endsLine earlier)
    (isLine : IsLine line) (nonempty : line ≠ []) :
    lineChars (earlier ++ line) = lineChars earlier ++ [line] := by
  fun_induction lineChars earlier with
  | case1 => exact lineChars_of_isLine isLine nonempty
  | case2 rest inductionHypothesis =>
      have later := inductionHypothesis ended.of_cons.of_cons
      exact congrArg ([] :: ·) later
  | case3 c rest alone ends inductionHypothesis =>
      have later := inductionHypothesis ended.of_cons
      rw [List.cons_append, lineChars.eq_3, if_pos ends, later]
      · rfl
      · -- The line that follows begins with no line feed, so no pair arises.
        intro more isReturn isFeed
        cases rest with
        | nil =>
            have feed : '\n' ∈ line := by
              rw [List.nil_append] at isFeed
              exact isFeed ▸ List.mem_cons_self
            exact absurd (isLine '\n' feed) (by decide)
        | cons next rest =>
            rw [List.cons_append] at isFeed
            cases isFeed
            exact alone rest isReturn rfl
  | case4 c rest _ inside inductionHypothesis =>
      have later := inductionHypothesis ended.of_cons
      have goesOn : rest ≠ [] := by
        rintro rfl
        exact inside (ended c rfl)
      rw [List.cons_append, lineChars_cons (Bool.eq_false_iff.mpr inside), later]
      cases cut : lineChars rest with
      | nil => exact absurd cut (lineChars_ne_nil goesOn)
      | cons first more => rfl

end Text

end TestSignal
