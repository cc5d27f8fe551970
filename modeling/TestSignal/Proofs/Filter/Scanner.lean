import TestSignal.Filter

namespace TestSignal

/-!
# Reading quoted text

A reader of a filter graph goes through its characters and keeps two things in mind:
whether it is between apostrophes, and whether a backslash stands right before the next
character.  A character is free when neither is the case.  Only a free character can
separate one part of the graph from the next.

There are two rules for a backslash between apostrophes, and a text may well be one token
under one of them and several under the other.  So the rule is a parameter, and each result
says for which rule it holds.

A piece of the graph is sealed against a set of marks when a reader that comes to it free
leaves it free and meets none of the marks on the way.  Sealed pieces can be put together,
and a graph made of them falls apart again at the marks between them.
-/

namespace Scan

/-- What a backslash between apostrophes means. -/
inductive Rule where
  /-- It makes the next character literal, as it does elsewhere. -/
  | escaping
  /-- It is a character like any other. -/
  | literal

inductive Place where
  | free
  | escaped
  | quoted
  | quotedEscaped
  deriving DecidableEq

/-- The place after a character. -/
def next (rule : Rule) (place : Place) (c : Char) : Place :=
  match place with
  | .free => if c = '\x27' then .quoted else if c = '\x5c' then .escaped else .free
  | .escaped => .free
  | .quoted =>
      if c = '\x27' then .free
      else match rule with
        | .escaping => if c = '\x5c' then .quotedEscaped else .quoted
        | .literal => .quoted
  | .quotedEscaped => .quoted

def after (rule : Rule) (place : Place) (text : List Char) : Place :=
  text.foldl (next rule) place

/-- The characters that are read where they are free. -/
def freeChars (rule : Rule) : Place → List Char → List Char
  | _, [] => []
  | .free, c :: rest => c :: freeChars rule (next rule .free c) rest
  | place, c :: rest => freeChars rule (next rule place c) rest

/-- Cuts a text at a mark, where the mark is free. -/
def cutAt (rule : Rule) (mark : Char) : Place → List Char → List (List Char)
  | _, [] => [[]]
  | place, c :: rest =>
      if place = .free ∧ c = mark then [] :: cutAt rule mark .free rest
      else (cutAt rule mark (next rule place c) rest).modifyHead (c :: ·)

variable {rule : Rule} {place : Place}

/-! ## Texts one after the other -/

theorem after_append (left right : List Char) :
    after rule place (left ++ right) = after rule (after rule place left) right :=
  List.foldl_append

theorem freeChars_cons (c : Char) (rest : List Char) :
    freeChars rule place (c :: rest) =
      (if place = .free then [c] else []) ++ freeChars rule (next rule place c) rest := by
  cases place <;> rfl

theorem freeChars_append (left right : List Char) :
    freeChars rule place (left ++ right) =
      freeChars rule place left ++ freeChars rule (after rule place left) right := by
  induction left generalizing place with
  | nil => rfl
  | cons c left inductionHypothesis =>
      rw [List.cons_append, freeChars_cons, freeChars_cons, inductionHypothesis,
        List.append_assoc]
      rfl

/-! ## Sealed pieces -/

/-- A piece that a reader leaves as free as it came, without a mark on the way. -/
structure Sealed (rule : Rule) (marks : List Char) (text : List Char) : Prop where
  closes : after rule .free text = .free
  hides : ∀ c ∈ freeChars rule .free text, c ∉ marks

namespace Sealed

variable {marks text : List Char}

theorem nil : Sealed rule marks [] where
  closes := rfl
  hides _ impossible := absurd impossible List.not_mem_nil

theorem append {left right : List Char} (first : Sealed rule marks left)
    (second : Sealed rule marks right) : Sealed rule marks (left ++ right) where
  closes := by
    rw [after_append, first.closes]
    exact second.closes
  hides := by
    rw [freeChars_append, first.closes]
    intro c member
    rcases List.mem_append.mp member with inFirst | inSecond
    · exact first.hides c inFirst
    · exact second.hides c inSecond

theorem flatten {pieces : List (List Char)} (each : ∀ piece ∈ pieces, Sealed rule marks piece) :
    Sealed rule marks pieces.flatten := by
  induction pieces with
  | nil => exact nil
  | cons piece rest inductionHypothesis =>
      rcases List.forall_mem_cons.mp each with ⟨first, others⟩
      exact first.append (inductionHypothesis others)

theorem weaken {fewer : List Char} (whole : Sealed rule marks text)
    (subset : fewer ⊆ marks) : Sealed rule fewer text where
  closes := whole.closes
  hides c free member := whole.hides c free (subset member)

/-- A character that is no mark, and neither opens quotes nor escapes. -/
theorem singleton {c : Char} (plain : c ≠ '\x27' ∧ c ≠ '\x5c') (unmarked : c ∉ marks) :
    Sealed rule marks [c] where
  closes := by
    change next rule .free c = .free
    unfold next
    dsimp only
    rw [if_neg plain.1, if_neg plain.2]
  hides other member := by
    rw [List.mem_singleton.mp member]
    exact unmarked

/-- A text of such characters. -/
theorem ofPlain (plain : ∀ c ∈ text, c ∉ '\x27' :: '\x5c' :: marks) :
    Sealed rule marks text := by
  induction text with
  | nil => exact nil
  | cons c rest inductionHypothesis =>
      rcases List.forall_mem_cons.mp plain with ⟨first, others⟩
      have harmless : c ≠ '\x27' ∧ c ≠ '\x5c' :=
        ⟨List.ne_of_not_mem_cons first,
          List.ne_of_not_mem_cons (List.not_mem_of_not_mem_cons first)⟩
      have unmarked : c ∉ marks :=
        List.not_mem_of_not_mem_cons (List.not_mem_of_not_mem_cons first)
      exact (singleton harmless unmarked).append (inductionHypothesis others)

theorem intercalate {mark : Char} {pieces : List (List Char)}
    (separator : Sealed rule marks [mark]) (each : ∀ piece ∈ pieces, Sealed rule marks piece) :
    Sealed rule marks ([mark].intercalate pieces) := by
  induction pieces with
  | nil => exact nil
  | cons piece rest inductionHypothesis =>
      rcases List.forall_mem_cons.mp each with ⟨first, others⟩
      cases rest with
      | nil => simpa using first
      | cons second more =>
          rw [List.intercalate_cons_cons]
          exact (first.append separator).append (inductionHypothesis others)

end Sealed

/-! ## Cutting at marks -/

/-- A piece without a free mark goes whole into the first part. -/
theorem cutAt_append {mark : Char} {piece rest : List Char}
    (hides : mark ∉ freeChars rule place piece) (closes : after rule place piece = .free) :
    cutAt rule mark place (piece ++ rest) =
      (cutAt rule mark .free rest).modifyHead (piece ++ ·) := by
  induction piece generalizing place with
  | nil =>
      change place = .free at closes
      rw [closes, List.nil_append]
      cases cutAt rule mark .free rest <;> rfl
  | cons c piece inductionHypothesis =>
      rw [freeChars_cons, List.mem_append, not_or] at hides
      have unmarked : ¬(place = .free ∧ c = mark) := by
        rintro ⟨free, same⟩
        rw [if_pos free] at hides
        exact hides.1 (List.mem_singleton.mpr same.symm)
      rw [List.cons_append, cutAt, if_neg unmarked, inductionHypothesis hides.2 closes,
        List.modifyHead_modifyHead]
      rfl

namespace Sealed

variable {marks piece : List Char} {mark : Char}

theorem not_mem_freeChars (isSealed : Sealed rule marks piece) (isMark : mark ∈ marks) :
    mark ∉ freeChars rule .free piece := fun free => isSealed.hides mark free isMark

theorem cutAt_alone (isSealed : Sealed rule marks piece) (isMark : mark ∈ marks) :
    cutAt rule mark .free piece = [piece] := by
  have alone := @cutAt_append rule .free mark piece [] (isSealed.not_mem_freeChars isMark)
    isSealed.closes
  rw [List.append_nil] at alone
  rw [alone]
  exact congrArg (· :: []) (List.append_nil piece)

theorem cutAt_before (isSealed : Sealed rule marks piece) (isMark : mark ∈ marks)
    (rest : List Char) :
    cutAt rule mark .free (piece ++ mark :: rest) = piece :: cutAt rule mark .free rest := by
  have atMark : cutAt rule mark .free (mark :: rest) = [] :: cutAt rule mark .free rest :=
    if_pos ⟨rfl, rfl⟩
  rw [cutAt_append (isSealed.not_mem_freeChars isMark) isSealed.closes, atMark]
  exact congrArg (· :: cutAt rule mark .free rest) (List.append_nil piece)

end Sealed

/-- Sealed pieces are found again when their sequence is cut at the mark between them. -/
theorem cutAt_intercalate {mark : Char} {marks : List Char} {pieces : List (List Char)}
    (isMark : mark ∈ marks) (nonempty : pieces ≠ [])
    (each : ∀ piece ∈ pieces, Sealed rule marks piece) :
    cutAt rule mark .free ([mark].intercalate pieces) = pieces := by
  induction pieces with
  | nil => exact absurd rfl nonempty
  | cons piece rest inductionHypothesis =>
      rcases List.forall_mem_cons.mp each with ⟨first, others⟩
      cases rest with
      | nil =>
          rw [List.intercalate_singleton]
          exact first.cutAt_alone isMark
      | cons second more =>
          rw [List.intercalate_cons_cons, List.append_assoc, List.singleton_append,
            first.cutAt_before isMark, inductionHypothesis (List.cons_ne_nil second more) others]

end Scan

end TestSignal
