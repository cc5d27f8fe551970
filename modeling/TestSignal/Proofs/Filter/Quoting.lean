import TestSignal.Proofs.Filter.Scanner

namespace TestSignal

/-!
# Quoted options

Shown text and quoted text stand between apostrophes, and an apostrophe in the text itself
gets a backslash in front.  Whether the result is one token depends on the rule of its
reader.  A reader that lets a backslash escape between apostrophes finds one token, unless
a quoted text has backslashes of its own.  For a reader that takes such a backslash as it
is, the first apostrophe of the text closes the token, and what follows is read as options,
filters and stages.
-/

namespace Scan

/-- A text that is one quoted token.  Only the apostrophe that opens it is free, and it is
closed by the last character. -/
structure IsOneToken (rule : Rule) (text : List Char) : Prop where
  opens : freeChars rule .free text = ['\x27']
  closes : after rule .free text = .free

/-- A text that leads from between apostrophes to between apostrophes and never out. -/
structure Enclosed (rule : Rule) (text : List Char) : Prop where
  stays : after rule .quoted text = .quoted
  inside : freeChars rule .quoted text = []

variable {rule : Rule}

namespace Enclosed

theorem nil : Enclosed rule [] := ⟨rfl, rfl⟩

theorem append {left right : List Char} (first : Enclosed rule left)
    (second : Enclosed rule right) : Enclosed rule (left ++ right) where
  stays := by
    rw [after_append, first.stays]
    exact second.stays
  inside := by
    rw [freeChars_append, first.stays, first.inside, second.inside]
    rfl

theorem flatMap {α : Type} {items : List α} {written : α → List Char}
    (each : ∀ item ∈ items, Enclosed rule (written item)) :
    Enclosed rule (items.flatMap written) := by
  induction items with
  | nil => exact nil
  | cons item rest inductionHypothesis =>
      rcases List.forall_mem_cons.mp each with ⟨first, others⟩
      rw [List.flatMap_cons]
      exact first.append (inductionHypothesis others)

theorem isOneToken {content : List Char} (enclosed : Enclosed rule content) :
    IsOneToken rule ('\x27' :: content ++ ['\x27']) where
  opens := by
    change '\x27' :: freeChars rule .quoted (content ++ ['\x27']) = _
    rw [freeChars_append, enclosed.inside, enclosed.stays]
    rfl
  closes := by
    change after rule .quoted (content ++ ['\x27']) = _
    rw [after_append, enclosed.stays]
    rfl

/-- A character with no meaning between apostrophes. -/
theorem singleton {c : Char} (plain : c ≠ '\x27' ∧ c ≠ '\x5c') : Enclosed rule [c] where
  stays := by
    change next rule .quoted c = .quoted
    unfold next
    dsimp only
    rw [if_neg plain.1]
    cases rule with
    | escaping => exact if_neg plain.2
    | literal => rfl
  inside := rfl

theorem escaped (c : Char) : Enclosed .escaping ['\x5c', c] := ⟨rfl, rfl⟩

/-- Without the escape only the apostrophe has a meaning. -/
theorem literal {content : List Char} (plain : '\x27' ∉ content) :
    Enclosed .literal content := by
  induction content with
  | nil => exact nil
  | cons c rest inductionHypothesis =>
      have other : c ≠ '\x27' := (List.ne_of_not_mem_cons plain).symm
      have alone : Enclosed .literal [c] := ⟨if_neg other, rfl⟩
      exact alone.append (inductionHypothesis (List.not_mem_of_not_mem_cons plain))

end Enclosed

theorem IsOneToken.sealed {marks text : List Char} (token : IsOneToken rule text)
    (unmarked : '\x27' ∉ marks) : Sealed rule marks text where
  closes := token.closes
  hides c member := by
    rw [token.opens] at member
    rw [List.mem_singleton.mp member]
    exact unmarked

/-- Without the escape the first apostrophe closes the token, so there may be no other. -/
theorem isOneToken_literal_iff (content : List Char) :
    IsOneToken .literal ('\x27' :: content ++ ['\x27']) ↔ '\x27' ∉ content := by
  constructor
  · intro token member
    rcases List.eq_append_cons_of_mem member with ⟨start, rest, split, first⟩
    have enclosed := Enclosed.literal first
    -- The character after the apostrophe is free, and there is one.
    have exposed : freeChars .literal .free ('\x27' :: content ++ ['\x27']) =
        '\x27' :: freeChars .literal .free (rest ++ ['\x27']) := by
      rw [split]
      change '\x27' :: freeChars .literal .quoted ((start ++ '\x27' :: rest) ++ ['\x27']) = _
      rw [List.append_assoc, freeChars_append, enclosed.inside, enclosed.stays]
      rfl
    have none : freeChars .literal .free (rest ++ ['\x27']) = [] :=
      List.tail_eq_of_cons_eq (exposed.symm.trans token.opens)
    cases rest with
    | nil => cases none
    | cons c more => cases none
  · exact fun plain => (Enclosed.literal plain).isOneToken

end Scan

namespace OptionValue

open Scan

/-! ## Apostrophes in the written text -/

theorem mem_mergeLineBreaks {c : Char} (other : c ≠ '\x5c' ∧ c ≠ 'n' ∧ c ≠ '\n')
    (text : List Char) : c ∈ mergeLineBreaks text ↔ c ∈ text := by
  fun_induction mergeLineBreaks text with
  | case1 rest inductionHypothesis =>
      simp only [List.mem_cons, inductionHypothesis, other.1, other.2.1, other.2.2, false_or]
  | case2 first rest noBreak inductionHypothesis =>
      simp only [List.mem_cons, inductionHypothesis]
  | case3 => rfl

theorem apostrophe_mem_escapedChar (expand : Bool) (c : Char) :
    '\x27' ∈ escapedChar expand c ↔ c = '\x27' := by
  by_cases same : c = '\x27'
  · subst same
    exact iff_of_true (by cases expand <;> decide) rfl
  · refine iff_of_false ?_ same
    unfold escapedChar
    rw [if_neg (show ¬(c == '\x27') = true from same ∘ beq_iff_eq.mp)]
    repeat' split
    case isFalse.isFalse.isFalse.isFalse =>
      exact fun member => same (List.mem_singleton.mp member).symm
    all_goals decide

theorem apostrophe_mem_quotedChar (c : Char) :
    '\x27' ∈ (if c == '\x27' then ['\x5c', c] else [c]) ↔ c = '\x27' := by
  by_cases same : c = '\x27'
  · subst same
    decide
  · rw [if_neg (same ∘ beq_iff_eq.mp), List.mem_singleton]
    exact eq_comm

/-- The text that stands between the apostrophes, for a value that has them. -/
def content? : OptionValue → Option (List Char)
  | literal text => some ((mergeLineBreaks text.toList).flatMap (escapedChar false))
  | template text => some ((mergeLineBreaks text.toList).flatMap (escapedChar true))
  | quoted text =>
      some (text.toList.flatMap fun c => if c == '\x27' then ['\x5c', c] else [c])
  | plain _ => none

theorem toList_render {value : OptionValue} {content : List Char}
    (enclosed : value.content? = some content) :
    value.render.toList = '\x27' :: content ++ ['\x27'] := by
  have between : ∀ inner : List Char,
      ("'" ++ String.ofList inner ++ "'").toList = '\x27' :: inner ++ ['\x27'] := by
    intro inner
    rw [String.toList_append, String.toList_append, @String.toList_ofList inner]
    rfl
  cases value with
  | literal text | template text =>
      rw [← Option.some.inj enclosed]
      exact between _
  | quoted text =>
      rw [← Option.some.inj enclosed]
      exact String.toList_ofList
  | plain value => cases enclosed

/-- The text that a quoted value is made from. -/
def quotedText? : OptionValue → Option String
  | literal text | template text | quoted text => some text
  | plain _ => none

/-- For a reader without the escape a text shown to the viewer, a template or a quoted text
is one token exactly when it has no apostrophe. -/
theorem isOneToken_render_iff {value : OptionValue} {text : String}
    (given : value.quotedText? = some text) :
    IsOneToken .literal value.render.toList ↔ '\x27' ∉ text.toList := by
  have merged := mem_mergeLineBreaks (by decide : '\x27' ≠ '\x5c' ∧ '\x27' ≠ 'n' ∧ '\x27' ≠ '\n')
    text.toList
  cases value with
  | literal shown | template shown =>
      cases given
      rw [toList_render rfl, isOneToken_literal_iff, List.mem_flatMap, ← merged]
      simp only [apostrophe_mem_escapedChar, exists_eq_right]
  | quoted shown =>
      cases given
      rw [toList_render rfl, isOneToken_literal_iff, List.mem_flatMap]
      simp only [apostrophe_mem_quotedChar, exists_eq_right]
  | plain value => cases given

theorem isOneToken_render_showcase :
    (literal "10:30 %{pts}").quotedText? = some "10:30 %{pts}" ∧
      (IsOneToken .literal (literal "10:30 %{pts}").render.toList ↔
        '\x27' ∉ "10:30 %{pts}".toList) :=
  ⟨rfl, isOneToken_render_iff rfl⟩

/-- A text with an apostrophe closes its own quotes. -/
theorem not_isOneToken_render :
    ¬∀ text : String, IsOneToken .literal (literal text).render.toList := by
  intro always
  have opens := (always "it's").opens
  revert opens
  decide +kernel

/-- Such a text can add a filter of its own. -/
example :
    cutAt .literal ',' .free
        (Filter.render
          { name := "drawtext", params := [("text", literal "',negate,drawtext=text='")] }).toList =
      ["drawtext=text='\\'".toList, "negate".toList, "drawtext=text=\\''".toList] := by
  decide +kernel

/-! ## The reader with the escape -/

theorem enclosed_escapedChar (expand : Bool) (c : Char) :
    Enclosed .escaping (escapedChar expand c) := by
  unfold escapedChar
  repeat' split
  case isFalse.isFalse.isFalse.isFalse.isFalse noBackslash _ noApostrophe _ _ =>
    exact Enclosed.singleton ⟨noApostrophe ∘ beq_iff_eq.mpr, noBackslash ∘ beq_iff_eq.mpr⟩
  case isFalse.isTrue => exact ⟨rfl, rfl⟩
  case isFalse.isFalse.isFalse.isFalse.isTrue => exact ⟨rfl, rfl⟩
  all_goals exact Enclosed.escaped _

/-- A quoted text may have no backslash of its own. -/
def Unescaped : OptionValue → Prop
  | quoted text => '\x5c' ∉ text.toList
  | literal _ | template _ | plain _ => True

/-- For a reader with the escape every such value is one token. -/
theorem isOneToken_escaping {value : OptionValue} {text : String}
    (given : value.quotedText? = some text) (unescaped : value.Unescaped) :
    IsOneToken .escaping value.render.toList := by
  cases value with
  | literal shown | template shown =>
      rw [toList_render rfl]
      exact (Enclosed.flatMap fun c _ => enclosed_escapedChar _ c).isOneToken
  | quoted shown =>
      cases given
      rw [toList_render rfl]
      refine (Enclosed.flatMap fun c member => ?_).isOneToken
      split
      case isTrue => exact Enclosed.escaped c
      case isFalse other =>
        refine Enclosed.singleton ⟨other ∘ beq_iff_eq.mpr, ?_⟩
        rintro rfl
        exact unescaped member
  | plain value => cases given

end OptionValue

end TestSignal
