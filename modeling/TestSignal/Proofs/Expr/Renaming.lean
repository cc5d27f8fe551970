import TestSignal.Proofs.Expr.Reading
import TestSignal.Proofs.Number.Written
import TestSignal.Text.Word

namespace TestSignal

/-!
# Variables renamed in a text

A variable of two letters is replaced in a text wherever it stands as a whole word.  Brackets,
commas and operators are no part of a word, so each of them cuts the text into two that are
replaced independently.  What is left between the cuts of a tree's text are its names and its
numbers.  So the text with the variable replaced is the text of the tree with the variable
renamed, and the renamed tree has the value that the tree has when the variable stands for what
the new name stands for.
-/

namespace Text

/-! ## Words of two letters -/

theorem isWord_of_isAlpha {c : Char} (letter : c.isAlpha = true) : isWord c = true := by
  have ascii : c.toNat < 128 := by
    rcases Bool.or_eq_true_iff.mp letter with capital | small
    · have := toNat_of_isUpper capital
      omega
    · exact toNat_lt_of_isLower small
  unfold isWord
  rw [if_pos ascii, Char.isAlphanum, letter]
  rfl

theorem isWord_of_inName {c : Char} (named : Expr.inName c = true) : isWord c = true := by
  rcases Bool.or_eq_true_iff.mp named with letter | underscore
  · exact isWord_of_isAlpha letter
  · rw [eq_of_beq underscore]
    rfl

variable {first second replacement : Char}

/-- A character stays unless the word begins with it. -/
theorem replaceWordPair_cons {c : Char} {rest : List Char}
    (other : c ≠ first ∨ rest.head? ≠ some second) (inWord : Bool) :
    replaceWordPair first second replacement inWord (c :: rest) =
      c :: replaceWordPair first second replacement (isWord c) rest := by
  cases rest with
  | nil => rfl
  | cons next more =>
      rw [replaceWordPair, if_neg]
      simp only [Bool.and_eq_true, beq_iff_eq]
      rintro ⟨⟨⟨_, same⟩, same'⟩, _⟩
      rcases other with different | different
      · exact different same
      · exact different (congrArg some same')

/-- A text without the second letter of the word stays. -/
theorem replaceWordPair_of_not_mem {text : List Char} (without : second ∉ text) (inWord : Bool) :
    replaceWordPair first second replacement inWord text = text := by
  induction text generalizing inWord with
  | nil => rfl
  | cons c rest inductionHypothesis =>
      rcases not_or.mp (List.mem_cons.not.mp without) with ⟨_, later⟩
      have other : rest.head? ≠ some second := fun same => later (List.mem_of_head? same)
      rw [replaceWordPair_cons (.inr other), inductionHypothesis later]

/-- Within a word nothing is replaced. -/
theorem replaceWordPair_inWord {text : List Char} (word : ∀ c ∈ text, isWord c = true) :
    replaceWordPair first second replacement true text = text := by
  induction text with
  | nil => rfl
  | cons c rest inductionHypothesis =>
      rcases List.forall_mem_cons.mp word with ⟨letter, others⟩
      cases rest with
      | nil => rfl
      | cons next more =>
          rw [replaceWordPair, if_neg (by simp), letter, inductionHypothesis others]

/-- A text that is one word is replaced when it is the word. -/
theorem replaceWordPair_word {text : List Char} (word : ∀ c ∈ text, isWord c = true) :
    replaceWordPair first second replacement false text =
      if text = [first, second] then [replacement] else text := by
  split
  case isTrue same =>
      rw [same, replaceWordPair, if_pos (by simp [startsWithWord])]
      rfl
  case isFalse other =>
      match text with
      | [] => rfl
      | [c] => rfl
      | c :: next :: rest =>
          rcases List.forall_mem_cons.mp word with ⟨letter, others⟩
          rw [replaceWordPair, if_neg, letter, replaceWordPair_inWord others]
          simp only [Bool.and_eq_true, beq_iff_eq]
          rintro ⟨⟨⟨_, rfl⟩, rfl⟩, ended⟩
          -- A word that goes on after the two letters is another one.
          cases rest with
          | nil => exact other rfl
          | cons more _ =>
              have longer : isWord more = true := others more (by simp)
              change (!isWord more) = true at ended
              rw [longer] at ended
              cases ended

theorem startsWithWord_append {mark : Char} (outside : isWord mark = false)
    (left right : List Char) : startsWithWord (left ++ mark :: right) = startsWithWord left := by
  cases left with
  | nil => exact outside
  | cons c rest => rfl

/-- A character outside of words cuts a text, and both parts are replaced on their own. -/
theorem replaceWordPair_cut (begins : isWord first = true) (ends : isWord second = true)
    {mark : Char} (outside : isWord mark = false) (inWord : Bool) (left right : List Char) :
    replaceWordPair first second replacement inWord (left ++ mark :: right) =
      replaceWordPair first second replacement inWord left ++
        mark :: replaceWordPair first second replacement false right := by
  have notFirst : mark ≠ first := by
    rintro rfl
    exact absurd begins (by rw [outside]; exact Bool.false_ne_true)
  have notSecond : mark ≠ second := by
    rintro rfl
    exact absurd ends (by rw [outside]; exact Bool.false_ne_true)
  have alone (inWord : Bool) : replaceWordPair first second replacement inWord (mark :: right) =
      mark :: replaceWordPair first second replacement false right := by
    rw [replaceWordPair_cons (.inl notFirst), outside]
  induction inWord, left using replaceWordPair.induct first second with
  | case1 inWord a b rest whole inductionHypothesis =>
      rw [List.cons_append, List.cons_append, replaceWordPair, replaceWordPair, if_pos whole,
        startsWithWord_append outside, if_pos whole, inductionHypothesis, List.cons_append]
  | case2 inWord a b rest other inductionHypothesis =>
      rw [List.cons_append, List.cons_append, replaceWordPair, replaceWordPair, if_neg other,
        startsWithWord_append outside, if_neg other, ← List.cons_append, inductionHypothesis,
        List.cons_append]
  | case3 inWord short few =>
      match short with
      | [] => exact alone inWord
      | [c] =>
          have other : (mark :: right).head? ≠ some second :=
            fun same => notSecond (Option.some.inj same)
          rw [List.singleton_append, replaceWordPair_cons (.inr other), alone]
          rfl
      | c :: next :: rest => exact absurd rfl (few c next rest)

end Text

namespace Expr

/-! ## Trees with a variable renamed -/

/-- A tree with one name in place of another. -/
def rename (old new : String) : Expr → Expr
  | numeral value => numeral value
  | symbol name => symbol (if name = old then new else name)
  | paren inner => paren (inner.rename old new)
  | add left right => add (left.rename old new) (right.rename old new)
  | sub left right => sub (left.rename old new) (right.rename old new)
  | mul left right => mul (left.rename old new) (right.rename old new)
  | div left right => div (left.rename old new) (right.rename old new)
  | call function argument => call function (argument.rename old new)
  | call2 function first second => call2 function (first.rename old new) (second.rename old new)
  | call3 function first second third =>
      call3 function (first.rename old new) (second.rename old new) (third.rename old new)

variable {old new : String} {e : Expr}

/-- Renaming changes the value as the variable's does. -/
theorem value?_rename (assign : String → Option ℚ) :
    (e.rename old new).value? assign =
      e.value? fun name => assign (if name = old then new else name) := by
  induction e with
  | numeral value => rfl
  | symbol name => rfl
  | paren inner inductionHypothesis => exact inductionHypothesis
  | add left right leftHypothesis rightHypothesis
  | sub left right leftHypothesis rightHypothesis
  | mul left right leftHypothesis rightHypothesis
  | div left right leftHypothesis rightHypothesis =>
      simp only [rename, value?, leftHypothesis, rightHypothesis]
  | call function argument inductionHypothesis =>
      simp only [rename, value?, inductionHypothesis]
  | call2 function first second firstHypothesis secondHypothesis =>
      simp only [rename, value?, firstHypothesis, secondHypothesis]
  | call3 function first second third firstHypothesis secondHypothesis thirdHypothesis =>
      cases function <;>
        simp only [rename, value?, firstHypothesis, secondHypothesis, thirdHypothesis]

theorem binding_rename : (e.rename old new).binding = e.binding := by
  cases e <;> rfl

/-- A readable tree stays readable with a word for the new name. -/
theorem Readable.rename (readable : e.Readable) (named : (symbol new).Readable) :
    (e.rename old new).Readable := by
  induction e with
  | numeral value => exact readable
  | symbol name =>
      unfold Expr.rename
      split
      · exact named
      · exact readable
  | paren inner inductionHypothesis => exact inductionHypothesis readable
  | add left right leftHypothesis rightHypothesis
  | sub left right leftHypothesis rightHypothesis =>
      rcases readable with ⟨first, second, binds⟩
      exact ⟨leftHypothesis first, rightHypothesis second, by rwa [binding_rename]⟩
  | mul left right leftHypothesis rightHypothesis
  | div left right leftHypothesis rightHypothesis =>
      rcases readable with ⟨first, second, binds, closed⟩
      exact ⟨leftHypothesis first, rightHypothesis second, by rwa [binding_rename],
        by rwa [binding_rename]⟩
  | call function argument inductionHypothesis => exact inductionHypothesis readable
  | call2 function first second firstHypothesis secondHypothesis =>
      exact ⟨firstHypothesis readable.1, secondHypothesis readable.2⟩
  | call3 function first second third firstHypothesis secondHypothesis thirdHypothesis =>
      exact ⟨firstHypothesis readable.1, secondHypothesis readable.2.1,
        thirdHypothesis readable.2.2⟩

/-! ## The text of the renamed tree -/

/-- The names of the functions. -/
def functionNames : List String :=
  [Function.floor, .abs, .sin].map Function.name ++
    [Function2.mod, .lt, .gt, .eq].map Function2.name ++
    [Function3.between, .choose].map Function3.name

theorem isWord_functionNames {name : String} (member : name ∈ functionNames) :
    ∀ c ∈ name.toList, Text.isWord c = true := by
  have words : (functionNames.all fun name => name.toList.all Text.isWord) = true := by decide
  exact List.all_eq_true.mp (List.all_eq_true.mp words name member)

/-- A variable of two letters that nothing else in a text can be taken for: its last letter is
in no number, and no function has its name. -/
structure Variable (first second : Char) : Prop where
  begins : Text.isWord first = true
  ends : Text.isWord second = true
  noNumber : isNumeral second = false
  noFunction : ∀ name ∈ functionNames, name.toList ≠ [first, second]

section Replacing

open Text

variable {first second : Char} (is : Variable first second) (replacement : Char)
include is

/-- The name of a function is a word, and not the variable's. -/
theorem replaceWordPair_name {name : String} (member : name ∈ functionNames)
    (rest : List Char) :
    replaceWordPair first second replacement false (name.toList ++ '(' :: rest) =
      name.toList ++ '(' :: replaceWordPair first second replacement false rest := by
  rw [replaceWordPair_cut is.begins is.ends (by decide),
    replaceWordPair_word (isWord_functionNames member), if_neg (is.noFunction name member)]

/-- An operator is no part of a word, so its operands are replaced on their own. -/
theorem replaceWordPair_joined {mark : Char} (outside : isWord mark = false) (operator : String)
    (single : operator.toList = [mark]) {left right left' right' : Expr}
    (leftSame : replaceWordPair first second replacement false left.text.toList =
      left'.text.toList)
    (rightSame : replaceWordPair first second replacement false right.text.toList =
      right'.text.toList) :
    replaceWordPair first second replacement false (left.text ++ operator ++ right.text).toList =
      (left'.text ++ operator ++ right'.text).toList := by
  rw [toList_between _ _ _ single, toList_between _ _ _ single,
    replaceWordPair_cut is.begins is.ends outside, leftSame, rightSame]

/-- The text of a readable tree with a variable replaced is that of the tree with the variable
renamed. -/
theorem replaceWordPair_text (readable : e.Readable) :
    replaceWordPair first second replacement false e.text.toList =
      (e.rename (String.ofList [first, second]) (String.ofList [replacement])).text.toList := by
  have cut {mark : Char} (outside : isWord mark = false) (left right : List Char) :
      replaceWordPair first second replacement false (left ++ mark :: right) =
        replaceWordPair first second replacement false left ++
          mark :: replaceWordPair first second replacement false right :=
    replaceWordPair_cut is.begins is.ends outside false left right
  have closed (left : List Char) :
      replaceWordPair first second replacement false (left ++ [')']) =
        replaceWordPair first second replacement false left ++ [')'] := cut (by decide) left []
  induction e with
  | numeral value =>
      refine replaceWordPair_of_not_mem (fun member => ?_) false
      have numeral := value.isNumeral_toText second member
      rw [is.noNumber] at numeral
      cases numeral
  | symbol name =>
      have same : name = String.ofList [first, second] ↔ name.toList = [first, second] := by
        rw [← String.toList_inj, String.toList_ofList]
      have word : ∀ c ∈ name.toList, isWord c = true :=
        fun c member => isWord_of_inName (readable.2 c member)
      refine (replaceWordPair_word word).trans ?_
      unfold rename
      by_cases replaced : name.toList = [first, second]
      · rw [if_pos replaced, if_pos (same.mpr replaced)]
        exact String.toList_ofList.symm
      · rw [if_neg replaced, if_neg (replaced ∘ same.mp)]
        rfl
  | paren inner inductionHypothesis =>
      have opened := cut (show isWord '(' = false by decide) [] (inner.text.toList ++ [')'])
      rw [toList_paren, rename, toList_paren, ← inductionHypothesis readable, ← closed]
      exact opened
  | add left right leftHypothesis rightHypothesis =>
      exact replaceWordPair_joined is _ (by decide) "+" rfl (leftHypothesis readable.1)
        (rightHypothesis readable.2.1)
  | sub left right leftHypothesis rightHypothesis =>
      exact replaceWordPair_joined is _ (by decide) "-" rfl (leftHypothesis readable.1)
        (rightHypothesis readable.2.1)
  | mul left right leftHypothesis rightHypothesis =>
      exact replaceWordPair_joined is _ (by decide) "*" rfl (leftHypothesis readable.1)
        (rightHypothesis readable.2.1)
  | div left right leftHypothesis rightHypothesis =>
      exact replaceWordPair_joined is _ (by decide) "/" rfl (leftHypothesis readable.1)
        (rightHypothesis readable.2.1)
  | call function argument inductionHypothesis =>
      have member : function.name ∈ functionNames := by cases function <;> decide
      rw [toList_call, replaceWordPair_name is _ member, closed, inductionHypothesis readable,
        rename, toList_call]
  | call2 function first second firstHypothesis secondHypothesis =>
      have member : function.name ∈ functionNames := by cases function <;> decide
      rw [toList_call2, replaceWordPair_name is _ member, cut (by decide), closed,
        firstHypothesis readable.1, secondHypothesis readable.2, rename, toList_call2]
  | call3 function first second third firstHypothesis secondHypothesis thirdHypothesis =>
      have member : function.name ∈ functionNames := by cases function <;> decide
      rw [toList_call3, replaceWordPair_name is _ member, cut (by decide), cut (by decide), closed,
        firstHypothesis readable.1, secondHypothesis readable.2.1, thirdHypothesis readable.2.2,
        rename, toList_call3]

end Replacing

end Expr

end TestSignal
