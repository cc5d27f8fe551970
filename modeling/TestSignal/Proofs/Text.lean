import Mathlib.Data.List.DropRight
import TestSignal.Text.Blank
import TestSignal.Text.Split

namespace TestSignal

namespace Text

/-!
# Characters and trimmed texts

Letters and digits of ASCII have small code points, so a statement about them is a
table that is looked through once.  The bounds are read off the definitions of the
classes, and `ofAscii` turns a table into a statement about characters.

A trimmed text has no blanks at its ends, so trimming it again changes nothing.
-/

/-! ## Letters and digits of ASCII -/

/-- What holds of the first 128 characters holds of every ASCII character. -/
theorem ofAscii (holds : Char → Prop) (table : ∀ n < 128, holds (Char.ofNat n)) {c : Char}
    (bounded : c.toNat < 128) : holds c := by
  have found := table c.toNat bounded
  rw [Char.ofNat_toNat] at found
  exact found

theorem toNat_of_isUpper {c : Char} (capital : c.isUpper = true) : 65 ≤ c.toNat ∧ c.toNat ≤ 90 :=
  of_decide_eq_true capital

theorem toNat_of_isLower {c : Char} (small : c.isLower = true) : 97 ≤ c.toNat ∧ c.toNat ≤ 122 := by
  rcases Bool.and_eq_true_iff.mp small with ⟨above, below⟩
  exact ⟨of_decide_eq_true above, of_decide_eq_true below⟩

theorem toNat_of_isDigit {c : Char} (digit : c.isDigit = true) : 48 ≤ c.toNat ∧ c.toNat ≤ 57 := by
  rcases Bool.and_eq_true_iff.mp digit with ⟨above, below⟩
  exact ⟨of_decide_eq_true above, of_decide_eq_true below⟩

theorem toNat_lt_of_isLower {c : Char} (small : c.isLower = true) : c.toNat < 128 := by
  have bounds := toNat_of_isLower small
  omega

theorem toNat_lt_of_isDigit {c : Char} (digit : c.isDigit = true) : c.toNat < 128 := by
  have bounds := toNat_of_isDigit digit
  omega

theorem isAlpha_of_isDigit {c : Char} (digit : c.isDigit = true) : c.isAlpha = false :=
  ofAscii (fun c => c.isDigit = true → c.isAlpha = false) (by decide +kernel)
    (toNat_lt_of_isDigit digit) digit

/-! ## Cuts -/

/-- A text is cut at the first mark. -/
theorem cut_append {mark : Char} {before : List Char} (free : mark ∉ before) (after : List Char) :
    cut mark (before ++ mark :: after) = (before, after) := by
  have kept : ∀ c ∈ before, (c != mark) = true := by
    intro c member
    rw [bne_iff_ne]
    exact fun same => free (same ▸ member)
  unfold cut
  rw [List.takeWhile_append_of_pos kept, List.dropWhile_append_of_pos kept,
    List.takeWhile_cons_of_neg (by simp), List.dropWhile_cons_of_neg (by simp), List.append_nil]
  rfl

/-- Cuts a text at the last `mark`, which belongs to neither part. -/
def cutLast (mark : Char) (text : List Char) : List Char × List Char :=
  let (after, before) := cut mark text.reverse
  (before.reverse, after.reverse)

theorem cutLast_append {mark : Char} {after : List Char} (free : mark ∉ after)
    (before : List Char) : cutLast mark (before ++ mark :: after) = (before, after) := by
  have backwards : (before ++ mark :: after).reverse = after.reverse ++ mark :: before.reverse := by
    simp
  unfold cutLast
  rw [backwards, cut_append (free ∘ List.mem_reverse.mp)]
  dsimp only
  rw [List.reverse_reverse, List.reverse_reverse]

/-! ## Runs of a class -/

/-- A text is empty, or its first character is of a class. -/
def StartsIn (class? : Char → Bool) (text : List Char) : Prop := ∀ c ∈ text.head?, class? c = true

/-- A text is empty, or its last character is of a class. -/
def EndsIn (class? : Char → Bool) (text : List Char) : Prop := ∀ c ∈ text.getLast?, class? c = true

/-- A text is empty, or its first character is not of a class. -/
def StartsOutside (class? : Char → Bool) (text : List Char) : Prop :=
  ∀ c ∈ text.head?, class? c = false

/-- A text is empty, or its last character is not of a class. -/
def EndsOutside (class? : Char → Bool) (text : List Char) : Prop :=
  ∀ c ∈ text.getLast?, class? c = false

section Runs

variable {class? : Char → Bool} {run rest : List Char}

/-- A text that starts outside a class has no run of it in front. -/
theorem takeWhile_of_startsOutside (stops : StartsOutside class? rest) :
    rest.takeWhile class? = [] := by
  cases rest with
  | nil => rfl
  | cons c rest => exact List.takeWhile_cons_of_neg (by simp [stops c rfl])

theorem dropWhile_of_startsOutside (stops : StartsOutside class? rest) :
    rest.dropWhile class? = rest := by
  have whole : rest.takeWhile class? ++ rest.dropWhile class? = rest :=
    List.takeWhile_append_dropWhile
  rwa [takeWhile_of_startsOutside stops, List.nil_append] at whole

/-- A run of a class is cut off whole when what follows starts outside the class. -/
theorem takeWhile_run (each : ∀ c ∈ run, class? c = true)
    (stops : StartsOutside class? rest) : (run ++ rest).takeWhile class? = run := by
  rw [List.takeWhile_append_of_pos each, takeWhile_of_startsOutside stops, List.append_nil]

theorem dropWhile_run (each : ∀ c ∈ run, class? c = true)
    (stops : StartsOutside class? rest) : (run ++ rest).dropWhile class? = rest := by
  rw [List.dropWhile_append_of_pos each, dropWhile_of_startsOutside stops]

/-- What starts outside a class stops the dropping, whatever stands in front of it. -/
theorem dropWhile_append_of_startsOutside (before : List Char)
    (stops : StartsOutside class? rest) :
    (before ++ rest).dropWhile class? = before.dropWhile class? ++ rest := by
  rw [List.dropWhile_append]
  split
  · rename_i dropped
    rw [List.isEmpty_iff.mp dropped, dropWhile_of_startsOutside stops, List.nil_append]
  · rfl

theorem StartsOutside.append (starts : StartsOutside class? run) (nonempty : run ≠ [])
    (after : List Char) : StartsOutside class? (run ++ after) := by
  intro c first
  rw [List.head?_append_of_ne_nil run nonempty] at first
  exact starts c first

theorem EndsOutside.reverse (ends : EndsOutside class? run) :
    StartsOutside class? run.reverse := by
  intro c first
  exact ends c (by rwa [List.head?_reverse] at first)

theorem StartsIn.of_prefix (starts : StartsIn class? rest) (part : run <+: rest) :
    StartsIn class? run := by
  rcases part with ⟨after, rfl⟩
  intro c first
  exact starts c (by rw [List.head?_append, first]; rfl)

theorem EndsIn.of_suffix (ends : EndsIn class? rest) (part : run <:+ rest) : EndsIn class? run := by
  rcases part with ⟨before, rfl⟩
  intro c last
  exact ends c (by rw [List.getLast?_append, last]; rfl)

end Runs

/-! ## Trimmed texts -/

/-- A text with nothing to drop at its ends is trimmed. -/
theorem trimBy_of_ends {drop : Char → Bool} {text : List Char}
    (starts : StartsOutside drop text) (ends : EndsOutside drop text) :
    trimBy drop text = text := by
  rw [trimBy, dropWhile_of_startsOutside starts, dropWhile_of_startsOutside ends.reverse,
    List.reverse_reverse]

/-- Around a text with nothing to drop at its ends, both sides are trimmed alone. -/
theorem trimBy_append {drop : Char → Bool} {core : List Char} (nonempty : core ≠ [])
    (starts : StartsOutside drop core) (ends : EndsOutside drop core)
    (before after : List Char) :
    trimBy drop (before ++ (core ++ after)) =
      before.dropWhile drop ++ (core ++ (after.reverse.dropWhile drop).reverse) := by
  have stops : StartsOutside drop (core.reverse ++ (before.dropWhile drop).reverse) :=
    ends.reverse.append (by simpa using nonempty) _
  rw [trimBy, dropWhile_append_of_startsOutside before (starts.append nonempty after)]
  simp only [List.reverse_append, List.append_assoc, dropWhile_append_of_startsOutside _ stops,
    List.reverse_reverse]

/-- What is left of a trimmed text, if anything, starts with a character that stays. -/
theorem dropWhile_trimBy (drop : Char → Bool) (text : List Char) :
    (trimBy drop text).dropWhile drop = trimBy drop text := by
  have start := List.dropWhile_idempotent drop text
  rcases List.rdropWhile_prefix drop (text.dropWhile drop) with ⟨rest, whole⟩
  change trimBy drop text ++ rest = text.dropWhile drop at whole
  cases trimmed : trimBy drop text with
  | nil => rfl
  | cons c more =>
      rw [← whole, trimmed, List.cons_append] at start
      cases dropped : drop c with
      | false => exact List.dropWhile_cons_of_neg (by rw [dropped]; exact Bool.false_ne_true)
      | true =>
          -- Dropping again would shorten a text that it leaves alone.
          rw [List.dropWhile_cons_of_pos dropped] at start
          have suffix : (more ++ rest).dropWhile drop <:+ more ++ rest :=
            List.dropWhile_suffix drop
          have shorter := suffix.length_le
          rw [start, List.length_cons] at shorter
          omega

/-- Trimming a trimmed text changes nothing. -/
theorem trimBy_trimBy (drop : Char → Bool) (text : List Char) :
    trimBy drop (trimBy drop text) = trimBy drop text := by
  change ((trimBy drop text).dropWhile drop).rdropWhile drop = trimBy drop text
  rw [dropWhile_trimBy]
  exact List.rdropWhile_idempotent drop (text.dropWhile drop)

theorem trim_trim (text : String) : trim (trim text) = trim text := by
  unfold trim
  rw [String.toList_ofList, trimBy_trimBy]

end Text

end TestSignal
