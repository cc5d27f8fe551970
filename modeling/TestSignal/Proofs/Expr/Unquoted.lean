import TestSignal.Proofs.Expr.Reading
import TestSignal.Proofs.Filter.Unescape
import TestSignal.Proofs.Number.Written

namespace TestSignal

/-!
# Expressions in unquoted text

An expression of the sound stands in the description of a source without quotes, with a
backslash in front of every comma.  The engine drops the backslashes before it evaluates the
expression.  What is left is the text that the same tree has inside quotes, since no other
character of it is a backslash.
-/

open Text

/-! ## Written texts -/

/-- A text that is another one once its escapes are dropped, whatever comes behind it. -/
def Spells (written plain : String) : Prop :=
  ∀ rest, dropEscapes (written.toList ++ rest) = plain.toList ++ dropEscapes rest

namespace Spells

variable {written plain written' plain' : String}

theorem append (first : Spells written plain) (second : Spells written' plain') :
    Spells (written ++ written') (plain ++ plain') := by
  intro rest
  rw [String.toList_append, String.toList_append, List.append_assoc, List.append_assoc, first,
    second]

/-- A text without backslashes stays as it is. -/
theorem ofPlain (free : '\x5c' ∉ plain.toList) : Spells plain plain := by
  intro rest
  generalize plain.toList = chars at free ⊢
  induction chars with
  | nil => rfl
  | cons c others inductionHypothesis =>
      rcases not_or.mp (List.mem_cons.not.mp free) with ⟨other, later⟩
      rw [List.cons_append, OptionValue.dropEscapes_cons (Ne.symm other),
        inductionHypothesis later, List.cons_append]

theorem comma : Spells "\\," "," := fun _ => rfl

end Spells

namespace Expr

/-- A tree that can be read is spelled by its text without quotes. -/
theorem spells_escapedText {e : Expr} (readable : e.Readable) : Spells e.escapedText e.text := by
  unfold escapedText text
  induction e with
  | numeral value =>
      refine .ofPlain fun member => ?_
      have numeral := value.isNumeral_toText '\x5c' member
      cases numeral
  | symbol name =>
      refine .ofPlain fun member => ?_
      have named := readable.2 '\x5c' member
      cases named
  | paren inner inductionHypothesis =>
      exact ((Spells.ofPlain (by decide)).append (inductionHypothesis readable)).append
        (.ofPlain (by decide))
  | add left right leftHypothesis rightHypothesis
  | sub left right leftHypothesis rightHypothesis
  | mul left right leftHypothesis rightHypothesis
  | div left right leftHypothesis rightHypothesis =>
      exact ((leftHypothesis readable.1).append (.ofPlain (by decide))).append
        (rightHypothesis readable.2.1)
  | call function argument inductionHypothesis =>
      have name : Spells function.name function.name :=
        .ofPlain (by cases function <;> decide)
      exact ((name.append (.ofPlain (by decide))).append (inductionHypothesis readable)).append
        (.ofPlain (by decide))
  | call2 function first second firstHypothesis secondHypothesis =>
      have name : Spells function.name function.name :=
        .ofPlain (by cases function <;> decide)
      exact ((((name.append (.ofPlain (by decide))).append (firstHypothesis readable.1)).append
        .comma).append (secondHypothesis readable.2)).append (.ofPlain (by decide))
  | call3 function first second third firstHypothesis secondHypothesis thirdHypothesis =>
      have name : Spells function.name function.name :=
        .ofPlain (by cases function <;> decide)
      exact ((((((name.append (.ofPlain (by decide))).append (firstHypothesis readable.1)).append
        .comma).append (secondHypothesis readable.2.1)).append .comma).append
        (thirdHypothesis readable.2.2)).append (.ofPlain (by decide))

/-- What the engine evaluates of an expression that stands without quotes. -/
def unescaped (written : String) : String := String.ofList (dropEscapes written.toList)

theorem unescaped_escapedText {e : Expr} (readable : e.Readable) :
    unescaped e.escapedText = e.text := by
  have whole := spells_escapedText readable []
  rw [List.append_nil] at whole
  unfold unescaped
  rw [whole]
  exact (congrArg String.ofList (List.append_nil _)).trans String.ofList_toList

end Expr

end TestSignal
