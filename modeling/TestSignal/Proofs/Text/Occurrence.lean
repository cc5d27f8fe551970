import TestSignal.Proofs.Text

namespace TestSignal

namespace Text

/-!
# Texts inside texts

A text occurs in another when its characters stand there one after the other.  That a part
was put into a whole is read off how the whole was put together; that it was not is seen from
a single character of the part that the whole lacks.
-/

/-- The characters of a text stand in a row in another. -/
def Occurs (part whole : String) : Prop := part.toList <:+: whole.toList

namespace Occurs

variable {part whole : String}

theorem refl (part : String) : Occurs part part := List.infix_rfl

theorem append_right (occurs : Occurs part whole) (after : String) :
    Occurs part (whole ++ after) := by
  unfold Occurs
  rw [String.toList_append]
  exact List.IsInfix.trans occurs (List.prefix_append _ _).isInfix

theorem append_left (occurs : Occurs part whole) (before : String) :
    Occurs part (before ++ whole) := by
  unfold Occurs
  rw [String.toList_append]
  exact List.IsInfix.trans occurs (List.suffix_append _ _).isInfix

theorem mem (occurs : Occurs part whole) {c : Char} (member : c ∈ part.toList) :
    c ∈ whole.toList :=
  occurs.subset member

end Occurs

/-- Each of some texts occurs in the text that they are joined to. -/
theorem occurs_intercalate {texts : List String} {text : String} (member : text ∈ texts)
    (separator : String) : Occurs text (separator.intercalate texts) := by
  induction texts with
  | nil => exact absurd member List.not_mem_nil
  | cons first rest ih =>
      cases rest with
      | nil =>
          rw [List.mem_singleton.mp member, String.intercalate_singleton]
          exact .refl first
      | cons second more =>
          rw [String.intercalate_cons_cons]
          rcases List.mem_cons.mp member with rfl | later
          · exact ((Occurs.refl text).append_right _).append_right _
          · exact (ih later).append_left _

/-! ## Texts that are trimmed already -/

/-- A text that begins, and not with a blank. -/
def BeginsWithInk (text : String) : Prop :=
  ∃ c, text.toList.head? = some c ∧ isBlank c = false

/-- Texts that start and end with a character that is not blank. -/
structure InkedEnds (text : String) : Prop where
  starts : BeginsWithInk text
  ends : ∃ c, text.toList.getLast? = some c ∧ isBlank c = false

namespace InkedEnds

variable {text : String}

theorem trim (inked : InkedEnds text) : Text.trim text = text := by
  have starts : StartsOutside isBlank text.toList := by
    rcases inked.starts with ⟨c, first, ink⟩
    intro d isFirst
    cases first.symm.trans isFirst
    exact ink
  have ends : EndsOutside isBlank text.toList := by
    rcases inked.ends with ⟨c, last, ink⟩
    intro d isLast
    cases last.symm.trans isLast
    exact ink
  rw [Text.trim, trimBy_of_ends starts ends, String.ofList_toList]

theorem hasInk (inked : InkedEnds text) : Text.hasInk text = true := by
  rcases inked.starts with ⟨c, first, ink⟩
  apply List.any_eq_true.mpr
  refine ⟨c, List.mem_of_mem_head? first, ?_⟩
  rw [ink]
  rfl

/-- The ends of a text are those of its first and its last part. -/
theorem append {before after : String} (first : InkedEnds before) (last : InkedEnds after)
    (middle : String) : InkedEnds (before ++ (middle ++ after)) where
  starts := by
    rcases first.starts with ⟨c, same, ink⟩
    refine ⟨c, ?_, ink⟩
    rw [String.toList_append, List.head?_append, same]
    rfl
  ends := by
    rcases last.ends with ⟨c, same, ink⟩
    refine ⟨c, ?_, ink⟩
    rw [String.toList_append, String.toList_append, List.getLast?_append, List.getLast?_append,
      same]
    rfl

theorem intercalate {texts : List String} (nonempty : texts ≠ [])
    (each : ∀ text ∈ texts, InkedEnds text) (separator : String) :
    InkedEnds (separator.intercalate texts) := by
  induction texts with
  | nil => exact absurd rfl nonempty
  | cons first rest ih =>
      rcases List.forall_mem_cons.mp each with ⟨start, others⟩
      cases rest with
      | nil =>
          rw [String.intercalate_singleton]
          exact start
      | cons second more =>
          rw [String.intercalate_cons_cons, String.append_assoc]
          exact start.append (ih (List.cons_ne_nil _ _) others) separator

end InkedEnds

end Text

end TestSignal
