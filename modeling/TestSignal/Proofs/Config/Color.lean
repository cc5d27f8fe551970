import TestSignal.Config.Sanitize
import TestSignal.Proofs.Text

namespace TestSignal

/-!
# Texts that stand in the command without quotes

A colour is printed into the filter graph as it is, so it must not hold a character
that the graph's grammar reads.  The check of a colour admits digits of any script in
an opacity; such a digit is no blank and no mark of the grammar.
-/

namespace Color

/-! ## Characters of a colour -/

/-- A character that the grammar of the filter graph reads: a blank or a mark. -/
def isReserved (c : Char) : Bool :=
  Text.isBlank c || "'\"\\:,;[](){}<>".toList.contains c

/-- A character that a colour may hold. -/
def isPlain (c : Char) : Bool := c.isAlphanum || Text.isDigit c || "#@.".toList.contains c

/-- The digits and letters stand between the marks and the blanks, and so do the characters
of a script up to its own blanks. -/
theorem isReserved_of_code {c : Char}
    (code : (0x30 ≤ c.toNat ∧ c.toNat < 0x3A) ∨ (0x41 ≤ c.toNat ∧ c.toNat < 0x5B) ∨
      (0x61 ≤ c.toNat ∧ c.toNat < 0x7B) ∨ (0x660 ≤ c.toNat ∧ c.toNat < 0x1680) ∨
      (0x1681 ≤ c.toNat ∧ c.toNat < 0x2000) ∨ 0x3001 ≤ c.toNat) :
    isReserved c = false := by
  have marks : ("'\"\\:,;[](){}<>".toList.all fun mark =>
      mark.toNat < 0x30 ∨ (0x3A ≤ mark.toNat ∧ mark.toNat < 0x41) ∨
        (0x5B ≤ mark.toNat ∧ mark.toNat < 0x61) ∨ (0x7B ≤ mark.toNat ∧ mark.toNat < 0x80)) =
      true := by
    decide
  unfold isReserved
  rw [Bool.or_eq_false_iff]
  constructor
  · simp only [Text.isBlank, Bool.or_eq_false_iff, Bool.and_eq_false_iff, decide_eq_false_iff_not,
      beq_eq_false_iff_ne]
    omega
  · rw [Bool.eq_false_iff]
    intro marked
    have place := of_decide_eq_true (List.all_eq_true.mp marks c (List.contains_iff_mem.mp marked))
    omega

theorem isReserved_of_isAlphanum {c : Char} (word : c.isAlphanum = true) :
    isReserved c = false := by
  apply isReserved_of_code
  rcases Bool.or_eq_true_iff.mp word with letter | digit
  · rcases Bool.or_eq_true_iff.mp letter with capital | small
    · have bounds := Text.toNat_of_isUpper capital
      omega
    · have bounds := Text.toNat_of_isLower small
      omega
  · have bounds := Text.toNat_of_isDigit digit
    omega

/-- The ten digits of a script stand together. -/
theorem isReserved_of_isDigit {c : Char} (digit : Text.isDigit c = true) :
    isReserved c = false := by
  have zeros : ∀ start ∈ Text.digitZeros, start = 0x30 ∨
      (0x660 ≤ start ∧ start + 10 ≤ 0x1680) ∨ (0x1681 ≤ start ∧ start + 10 ≤ 0x2000) ∨
      0x3001 ≤ start := by
    decide +kernel
  unfold Text.isDigit Text.digitValue? at digit
  rw [Option.isSome_map] at digit
  rcases Option.isSome_iff_exists.mp digit with ⟨start, found⟩
  have bounds := List.find?_some found
  rw [Bool.and_eq_true, decide_eq_true_eq, decide_eq_true_eq] at bounds
  have place := zeros start (List.mem_of_find?_eq_some found)
  apply isReserved_of_code
  omega

theorem isReserved_of_isPlain {c : Char} (plain : isPlain c = true) : isReserved c = false := by
  unfold isPlain at plain
  rw [Bool.or_eq_true, Bool.or_eq_true] at plain
  rcases plain with (word | digit) | mark
  · exact isReserved_of_isAlphanum word
  · exact isReserved_of_isDigit digit
  · have marks : ("#@.".toList.all fun c => !isReserved c) = true := by decide
    have unreserved := List.all_eq_true.mp marks c (List.contains_iff_mem.mp mark)
    rw [Bool.not_eq_true'] at unreserved
    exact unreserved

theorem isPlain_of_isAlpha {c : Char} (letter : c.isAlpha = true) : isPlain c = true := by
  have word : c.isAlphanum = true := Bool.or_eq_true_iff.mpr (Or.inl letter)
  unfold isPlain
  rw [word]
  rfl

theorem isPlain_of_isDigit {c : Char} (digit : Text.isDigit c = true) : isPlain c = true := by
  unfold isPlain
  rw [digit, Bool.or_true]
  rfl

theorem isPlain_of_isHex {c : Char} (hex : isHex c = true) : isPlain c = true := by
  have bounded : c.toNat < 128 := by
    simp only [isHex, Bool.or_eq_true, Bool.and_eq_true, decide_eq_true_eq, Char.le_def,
      UInt32.le_iff_toNat_le] at hex
    change ((48 ≤ c.toNat ∧ c.toNat ≤ 57) ∨ (97 ≤ c.toNat ∧ c.toNat ≤ 102)) ∨
      (65 ≤ c.toNat ∧ c.toNat ≤ 70) at hex
    omega
  exact Text.ofAscii (fun c => isHex c = true → isPlain c = true) (by decide +kernel) bounded hex

/-! ## Well-formed colours -/

theorem all_plain_of_isHexColor {digits : List Char} (hex : isHexColor digits = true) :
    ∀ c ∈ digits, isPlain c = true := by
  intro c member
  exact isPlain_of_isHex (List.all_eq_true.mp (Bool.and_eq_true_iff.mp hex).2 c member)

theorem all_plain_of_isBase {text : List Char} (base : isBase text = true) :
    ∀ c ∈ text, isPlain c = true := by
  unfold isBase at base
  rcases Bool.or_eq_true_iff.mp base with named | marked
  · intro c member
    exact isPlain_of_isAlpha (List.all_eq_true.mp (Bool.and_eq_true_iff.mp named).2 c member)
  · split at marked
    · exact List.forall_mem_cons.mpr ⟨by decide, all_plain_of_isHexColor marked⟩
    · exact List.forall_mem_cons.mpr ⟨by decide,
        List.forall_mem_cons.mpr ⟨by decide, all_plain_of_isHexColor marked⟩⟩
    · exact absurd marked Bool.false_ne_true

/-- Digits, and what follows them if that is plain too. -/
theorem all_plain_of_dropWhile {text rest : List Char}
    (follows : text.dropWhile Text.isDigit = rest) (plain : ∀ c ∈ rest, isPlain c = true) :
    ∀ c ∈ text, isPlain c = true := by
  intro c member
  rw [← List.takeWhile_append_dropWhile (p := Text.isDigit) (l := text), follows] at member
  rcases List.mem_append.mp member with digit | later
  · exact isPlain_of_isDigit (List.mem_takeWhile_imp digit)
  · exact plain c later

theorem all_plain_of_isOpacity {text : List Char} (opacity : isOpacity text = true) :
    ∀ c ∈ text, isPlain c = true := by
  unfold isOpacity at opacity
  split at opacity
  case h_1 a b =>
      have hex := Bool.and_eq_true_iff.mp opacity
      simp only [List.forall_mem_cons, isPlain_of_isHex hex.1, isPlain_of_isHex hex.2, true_and]
      exact ⟨by decide, by decide, fun c member => absurd member List.not_mem_nil⟩
  case h_2 =>
      dsimp only at opacity
      split at opacity
      case h_1 follows =>
          exact all_plain_of_dropWhile follows fun c member => absurd member List.not_mem_nil
      case h_2 places follows =>
          apply all_plain_of_dropWhile follows
          have digits := List.all_eq_true.mp (Bool.and_eq_true_iff.mp opacity).1
          exact List.forall_mem_cons.mpr
            ⟨by decide, fun c member => isPlain_of_isDigit (digits c member)⟩
      case h_3 => exact absurd opacity Bool.false_ne_true

/-- A well-formed colour has plain characters only, and at least one. -/
theorem all_plain_of_isWellFormed {text : List Char} (formed : isWellFormed text = true) :
    text ≠ [] ∧ ∀ c ∈ text, isPlain c = true := by
  unfold isWellFormed at formed
  rw [Bool.and_eq_true] at formed
  rcases formed with ⟨base, ending⟩
  constructor
  · intro empty
    rw [empty] at base
    exact absurd base Bool.false_ne_true
  · intro c member
    rw [← List.takeWhile_append_dropWhile (p := (· != '@')) (l := text)] at member
    rcases List.mem_append.mp member with inBase | later
    · exact all_plain_of_isBase base c inBase
    · cases follows : text.dropWhile (· != '@') with
      | nil =>
          rw [follows] at later
          exact absurd later List.not_mem_nil
      | cons mark opacity =>
          rw [follows] at later ending
          have isMark := List.head?_dropWhile_not (· != '@') text
          rw [follows] at isMark
          have isAt : mark = '@' := by simpa using isMark
          rcases List.mem_cons.mp later with here | inOpacity
          · rw [here, isAt]
            decide
          · exact all_plain_of_isOpacity ending c inOpacity

end Color

end TestSignal
