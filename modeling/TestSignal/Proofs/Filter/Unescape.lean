import TestSignal.Proofs.Filter.Quoting
import Mathlib.Algebra.Ring.Parity
import Mathlib.Data.List.Chain

namespace TestSignal

/-!
# Shown text read back

Shown text is escaped in one pass over its characters.  The pass has the effect of global
replacements, one after the other: first of a backslash and the letter after it by a line
feed, then of each character with a meaning.  Undoing them in the opposite order gives the
text back with its line breaks, so two texts are written alike only if they differ in
nothing but how a line break is spelled.
-/

namespace Text

/-! ## Replacements -/

/-- Replaces a character by a text wherever it stands. -/
def replaceChar (old : Char) (new : List Char) (text : List Char) : List Char :=
  text.flatMap fun c => if c = old then new else [c]

/-- Replaces two characters in a row by one, from left to right. -/
def replacePair (first second replacement : Char) : List Char → List Char
  | c :: next :: rest =>
      if c = first ∧ next = second then replacement :: replacePair first second replacement rest
      else c :: replacePair first second replacement (next :: rest)
  | text => text

/-- Replaces a backslash and the character after it by that character, from left to right. -/
def dropEscapes : List Char → List Char
  | '\x5c' :: c :: rest => c :: dropEscapes rest
  | c :: rest => c :: dropEscapes rest
  | [] => []

section Pairs

variable {first second replacement : Char}

theorem replacePair_cons_cons (rest : List Char) :
    replacePair first second replacement (first :: second :: rest) =
      replacement :: replacePair first second replacement rest :=
  if_pos ⟨rfl, rfl⟩

/-- A character that begins no pair stays. -/
theorem replacePair_cons {c : Char} {rest : List Char}
    (noPair : c = first → second ∉ rest.head?) :
    replacePair first second replacement (c :: rest) =
      c :: replacePair first second replacement rest := by
  cases rest with
  | nil => rfl
  | cons next rest =>
      refine if_neg ?_
      rintro ⟨begins, ends⟩
      exact noPair begins (congrArg some ends)

/-- What is left begins as the text does, or with a replacement. -/
theorem mem_head?_replacePair {c : Char} {text : List Char}
    (begins : c ∈ (replacePair first second replacement text).head?) :
    c = replacement ∨ c ∈ text.head? := by
  fun_cases replacePair first second replacement text with
  | case1 c next rest pair =>
      rw [replacePair, if_pos pair] at begins
      exact .inl (Option.some.inj begins).symm
  | case2 c next rest noPair =>
      rw [replacePair, if_neg noPair] at begins
      exact .inr begins
  | case3 text short =>
      rw [replacePair.eq_2 _ _ _ _ short] at begins
      exact .inr begins

/-- When all pairs are replaced by a character of neither kind, none is left. -/
theorem isChain_replacePair (notFirst : replacement ≠ first) (notSecond : replacement ≠ second)
    (text : List Char) :
    (replacePair first second replacement text).IsChain
      fun c next => ¬(c = first ∧ next = second) := by
  fun_induction replacePair first second replacement text with
  | case1 c next rest pair inductionHypothesis =>
      exact List.isChain_cons.mpr ⟨fun _ _ both => notFirst both.1, inductionHypothesis⟩
  | case2 c next rest noPair inductionHypothesis =>
      refine List.isChain_cons.mpr ⟨?_, inductionHypothesis⟩
      rintro other begins ⟨same, rfl⟩
      rcases mem_head?_replacePair begins with replaced | here
      · exact notSecond replaced.symm
      · exact noPair ⟨same, Option.some.inj here⟩
  | case3 text short =>
      match text with
      | [] => exact .nil
      | [c] => exact .singleton c
      | c :: next :: rest => exact absurd rfl (short c next rest)

/-- Doubling a character is undone by replacing each pair of it. -/
theorem replacePair_replaceChar (c : Char) (text : List Char) :
    replacePair c c c (replaceChar c [c, c] text) = text := by
  unfold replaceChar
  induction text with
  | nil => rfl
  | cons d rest inductionHypothesis =>
      rw [List.flatMap_cons]
      by_cases same : d = c
      · rw [if_pos same, same]
        exact (replacePair_cons_cons _).trans (congrArg (c :: ·) inductionHypothesis)
      · rw [if_neg same]
        exact (replacePair_cons (absurd · same)).trans (congrArg (d :: ·) inductionHypothesis)

/-- In a text without pairs, a character that is spelled as a pair can be read back. -/
theorem replacePair_spelled (distinct : first ≠ second) {text : List Char}
    (noPair : text.IsChain fun c next => ¬(c = first ∧ next = second)) :
    replacePair first second replacement (replaceChar replacement [first, second] text) =
      text := by
  unfold replaceChar
  induction text with
  | nil => rfl
  | cons c rest inductionHypothesis =>
      rcases List.isChain_cons.mp noPair with ⟨here, later⟩
      rw [List.flatMap_cons]
      by_cases same : c = replacement
      · rw [if_pos same, same]
        exact (replacePair_cons_cons _).trans
          (congrArg (replacement :: ·) (inductionHypothesis later))
      · rw [if_neg same]
        refine (replacePair_cons ?_).trans (congrArg (c :: ·) (inductionHypothesis later))
        -- What follows begins as the rest does, or with the first character of a spelled pair.
        intro begins ends
        cases rest with
        | nil => cases ends
        | cons next rest =>
            rw [List.flatMap_cons] at ends
            split at ends
            · exact distinct (Option.some.inj ends)
            · exact here next rfl ⟨begins, Option.some.inj ends⟩

end Pairs

/-! ## Marks behind backslashes -/

/-- The number of backslashes at the end of a text. -/
def trailingBackslashes (text : List Char) : Nat :=
  (text.reverse.takeWhile (· == '\x5c')).length

theorem trailingBackslashes_concat (text : List Char) (c : Char) :
    trailingBackslashes (text ++ [c]) =
      if c = '\x5c' then trailingBackslashes text + 1 else 0 := by
  unfold trailingBackslashes
  rw [List.reverse_append, List.reverse_singleton, List.singleton_append, List.takeWhile_cons]
  by_cases backslash : c = '\x5c'
  · rw [if_pos backslash, if_pos (beq_iff_eq.mpr backslash), List.length_cons]
  · rw [if_neg backslash, if_neg (backslash ∘ beq_iff_eq.mp), List.length_nil]

/-- Before each of the marks stands an odd number of backslashes. -/
def MarksEscaped (marks text : List Char) : Prop :=
  ∀ before mark after, text = before ++ mark :: after → mark ∈ marks →
    Odd (trailingBackslashes before)

/-- The same, read from left to right behind an even or an odd number of backslashes. -/
def Guarded (marks : List Char) : Bool → List Char → Prop
  | _, [] => True
  | odd, c :: rest => (c ∈ marks → odd = true) ∧ Guarded marks (c == '\x5c' && !odd) rest

/-- Where the text begins behind other characters, their last backslashes count. -/
theorem Guarded.odd_trailingBackslashes {marks rest : List Char} {odd : Bool}
    (guarded : Guarded marks odd rest) (front : List Char)
    (counted : odd = true ↔ Odd (trailingBackslashes front))
    {before : List Char} {mark : Char} {after : List Char}
    (split : rest = before ++ mark :: after) (member : mark ∈ marks) :
    Odd (trailingBackslashes (front ++ before)) := by
  induction before generalizing front rest odd with
  | nil =>
      subst split
      rw [List.append_nil]
      exact counted.mp (guarded.1 member)
  | cons c before inductionHypothesis =>
      subst split
      have further : (c == '\x5c' && !odd) = true ↔ Odd (trailingBackslashes (front ++ [c])) := by
        rw [trailingBackslashes_concat, Bool.and_eq_true, beq_iff_eq, Bool.not_eq_true',
          ← Bool.not_eq_true, counted]
        by_cases backslash : c = '\x5c'
        · rw [if_pos backslash, Nat.odd_add_one]
          exact and_iff_right backslash
        · rw [if_neg backslash]
          exact iff_of_false (backslash ∘ And.left) (by decide)
      have later := inductionHypothesis guarded.2 (front ++ [c]) further rfl
      rwa [List.append_assoc] at later

theorem Guarded.marksEscaped {marks text : List Char} (guarded : Guarded marks false text) :
    MarksEscaped marks text :=
  fun _ _ _ split member =>
    guarded.odd_trailingBackslashes [] (by decide) split member

end Text

namespace OptionValue

open Text

/-! ## The escape as replacements -/

theorem mergeLineBreaks_eq (text : List Char) :
    mergeLineBreaks text = replacePair '\x5c' 'n' '\n' text := by
  fun_induction mergeLineBreaks text with
  | case1 rest inductionHypothesis =>
      rw [replacePair_cons_cons, inductionHypothesis]
  | case2 c rest noBreak inductionHypothesis =>
      rw [inductionHypothesis, replacePair_cons]
      intro begins ends
      cases rest with
      | nil => cases ends
      | cons next rest => exact noBreak rest begins (congrArg (· :: rest) (Option.some.inj ends))
  | case3 => rfl

/-- What holds of each character with a meaning and how it is written, and of every other
character as it is, holds of any character. -/
@[elab_as_elim]
theorem escapedChar_cases {motive : Char → List Char → Prop} {expand : Bool}
    (backslash : motive '\x5c' ['\x5c', '\x5c']) (lineFeed : motive '\n' ['\x5c', '\x5c', 'n'])
    (apostrophe : motive '\x27' ['\x5c', '\x27']) (colon : motive ':' ['\x5c', ':'])
    (percent : motive '%' (if expand then ['%'] else ['%', '%']))
    (other : ∀ c, c ≠ '\x5c' ∧ c ≠ '\n' ∧ c ≠ '\x27' ∧ c ≠ ':' ∧ c ≠ '%' → motive c [c])
    (c : Char) : motive c (escapedChar expand c) := by
  by_cases plain : c ≠ '\x5c' ∧ c ≠ '\n' ∧ c ≠ '\x27' ∧ c ≠ ':' ∧ c ≠ '%'
  · have itself : escapedChar expand c = [c] := by simp [escapedChar, plain]
    exact itself ▸ other c plain
  · have meant : c = '\x5c' ∨ c = '\n' ∨ c = '\x27' ∨ c = ':' ∨ c = '%' := by grind
    rcases meant with rfl | rfl | rfl | rfl | rfl
    · exact backslash
    · exact lineFeed
    · exact apostrophe
    · exact colon
    · cases expand <;> exact percent

/-- Without the percent sign, the pass has the effect of four replacements in a row. -/
theorem flatMap_escapedChar_true (text : List Char) :
    text.flatMap (escapedChar true) =
      replaceChar ':' ['\x5c', ':'] (replaceChar '\x27' ['\x5c', '\x27']
        (replaceChar '\n' ['\x5c', '\x5c', 'n']
          (replaceChar '\x5c' ['\x5c', '\x5c'] text))) := by
  unfold replaceChar
  simp only [List.flatMap_assoc]
  refine List.flatMap_congr fun c _ => ?_
  exact escapedChar_cases rfl rfl rfl rfl rfl (fun c plain => by simp [plain]) c

/-- The percent sign is doubled after everything else is escaped. -/
theorem flatMap_escapedChar_false (text : List Char) :
    text.flatMap (escapedChar false) =
      replaceChar '%' ['%', '%'] (text.flatMap (escapedChar true)) := by
  rw [flatMap_escapedChar_true]
  unfold replaceChar
  simp only [List.flatMap_assoc]
  refine List.flatMap_congr fun c _ => ?_
  exact escapedChar_cases rfl rfl rfl rfl rfl (fun c plain => by simp [plain]) c

/-! ## Reading back -/

theorem dropEscapes_cons {c : Char} (plain : c ≠ '\x5c') (rest : List Char) :
    dropEscapes (c :: rest) = c :: dropEscapes rest :=
  dropEscapes.eq_2 c rest fun _ _ begins _ => plain begins

/-- Without its escapes a written text is the text, but a line feed is a backslash and `n`. -/
theorem dropEscapes_flatMap_escapedChar (text : List Char) :
    dropEscapes (text.flatMap (escapedChar true)) = replaceChar '\n' ['\x5c', 'n'] text := by
  unfold replaceChar
  induction text with
  | nil => rfl
  | cons c rest inductionHypothesis =>
      rw [List.flatMap_cons, List.flatMap_cons, ← inductionHypothesis]
      refine escapedChar_cases rfl ?_ rfl rfl ?_ ?_ c
      · exact congrArg ('\x5c' :: ·) (dropEscapes_cons (by decide) _)
      · exact dropEscapes_cons (by decide) _
      · intro c plain
        rw [if_neg plain.2.1]
        exact dropEscapes_cons plain.1 _

/-- Undoes the escapes of a text: the doubled percent signs, unless fields are expanded, the
backslashes, and the spelling of a line break. -/
def unescapeText (expand : Bool) (written : String) : String :=
  let collapsed := if expand then written.toList else replacePair '%' '%' '%' written.toList
  String.ofList (replacePair '\x5c' 'n' '\n' (dropEscapes collapsed))

/-- A text in which every backslash with an `n` after it is a line feed. -/
def withLineBreaks (content : String) : String :=
  String.ofList (replacePair '\x5c' 'n' '\n' content.toList)

theorem unescapeText_escapeText (expand : Bool) (content : String) :
    unescapeText expand (escapeText expand content) = withLineBreaks content := by
  have noBreak : (replacePair '\x5c' 'n' '\n' content.toList).IsChain
      fun c next => ¬(c = '\x5c' ∧ next = 'n') :=
    isChain_replacePair (by decide) (by decide) content.toList
  have collapsed : (if expand then (escapeText expand content).toList
      else replacePair '%' '%' '%' (escapeText expand content).toList) =
        (mergeLineBreaks content.toList).flatMap (escapedChar true) := by
    unfold escapeText
    rw [String.toList_ofList]
    cases expand with
    | true => rfl
    | false => rw [flatMap_escapedChar_false]; exact replacePair_replaceChar _ _
  unfold unescapeText withLineBreaks
  dsimp only
  rw [collapsed, dropEscapes_flatMap_escapedChar, mergeLineBreaks_eq,
    replacePair_spelled (by decide) noBreak]

theorem escapeText_eq_iff (expand : Bool) (left right : String) :
    escapeText expand left = escapeText expand right ↔
      withLineBreaks left = withLineBreaks right := by
  constructor
  · intro same
    rw [← unescapeText_escapeText expand left, same, unescapeText_escapeText]
  · intro same
    have merged : mergeLineBreaks left.toList = mergeLineBreaks right.toList := by
      rw [mergeLineBreaks_eq, mergeLineBreaks_eq]
      exact String.ofList_injective same
    rw [escapeText, merged, escapeText]

theorem guarded_flatMap_escapedChar (expand : Bool) (text : List Char) :
    Guarded ['\x27', ':'] false (text.flatMap (escapedChar expand)) := by
  induction text with
  | nil => trivial
  | cons c rest inductionHypothesis =>
      rw [List.flatMap_cons]
      refine escapedChar_cases ?_ ?_ ?_ ?_ ?_ ?_ c
      · exact ⟨by decide, by decide, inductionHypothesis⟩
      · exact ⟨by decide, by decide, by decide, inductionHypothesis⟩
      · exact ⟨by decide, by decide, inductionHypothesis⟩
      · exact ⟨by decide, by decide, inductionHypothesis⟩
      · cases expand with
        | true => exact ⟨by decide, inductionHypothesis⟩
        | false => exact ⟨by decide, by decide, inductionHypothesis⟩
      · intro c plain
        rw [List.singleton_append, Guarded, beq_eq_false_iff_ne.mpr plain.1]
        refine ⟨fun member => ?_, inductionHypothesis⟩
        simp [plain] at member

/--
Escaped text can be read back: undoing the escapes gives the text with its line breaks.  So
two texts are written alike if and only if they are equal with their line breaks, and before
every apostrophe and colon stands an odd number of backslashes.
-/
theorem escapeText_readable (expand : Bool) :
    (∀ content, unescapeText expand (escapeText expand content) = withLineBreaks content) ∧
      (∀ left right, escapeText expand left = escapeText expand right ↔
        withLineBreaks left = withLineBreaks right) ∧
      ∀ content, MarksEscaped ['\x27', ':'] (escapeText expand content).toList := by
  refine ⟨unescapeText_escapeText expand, escapeText_eq_iff expand, fun content => ?_⟩
  rw [escapeText, String.toList_ofList]
  exact (guarded_flatMap_escapedChar expand _).marksEscaped

end OptionValue

end TestSignal
