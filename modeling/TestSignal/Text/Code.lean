namespace TestSignal

namespace Text

/-!
# Code points of texts

JSON text can hold one half of a surrogate pair without the other.  It is a code
point but no character, yet it has to come out of the program as it went in.  In
a text a private character stands for it: the one whose code is that of the
surrogate, counted from the start of the last plane.  Where such a character is
meant itself, a marker stands before it, as it does before itself.

The main statement is that the code points of a text are those that it was
written with, so nothing is confused with anything else.
-/

def isSurrogate (code : Nat) : Bool := 0xD800 ≤ code && code < 0xE000

/-- The code of the marker, next after the characters that stand for surrogates. -/
def markerCode : Nat := 0x10E000

/-- Whether a marker stands before the character of a code point. -/
def isMarked (code : Nat) : Bool := 0x10D800 ≤ code && code ≤ markerCode

/-- The characters that a code point is written with. -/
def charsOfCode (code : Nat) : List Char :=
  if isSurrogate code then [Char.ofNat (0x100000 + code)]
  else if isMarked code then [Char.ofNat markerCode, Char.ofNat code]
  else [Char.ofNat code]

/-- The text of some code points. -/
def ofCodes (codes : List Nat) : List Char := codes.flatMap charsOfCode

/-- The code point of a character that has no marker before it. -/
def unmarkedCode (c : Char) : Nat :=
  if isMarked c.toNat then c.toNat - 0x100000 else c.toNat

/-- The code points of a text. -/
def codesOf : List Char → List Nat
  | [] => []
  | [c] => [unmarkedCode c]
  | c :: next :: rest =>
      if c.toNat = markerCode then next.toNat :: codesOf rest
      else unmarkedCode c :: codesOf (next :: rest)

/-- The text of characters that all stand for themselves. -/
def ofPlain (text : String) : String := String.ofList (ofCodes (text.toList.map Char.toNat))

/-- A text for the outside; what is no character shows as the replacement character. -/
def toPlain (text : String) : String :=
  String.ofList ((codesOf text.toList).map fun code =>
    Char.ofNat (if isSurrogate code then 0xFFFD else code))

/-! ## Nothing is confused -/

theorem toNat_ofNat (code : Nat) (small : code < 0x110000) (plain : isSurrogate code = false) :
    (Char.ofNat code).toNat = code := by
  have valid : code.isValidChar := by
    simp only [isSurrogate, Bool.and_eq_false_iff, decide_eq_false_iff_not] at plain
    simp only [Nat.isValidChar]
    omega
  rw [Char.ofNat, dif_pos valid]
  rfl

/-- One code point is read back in front of any text. -/
theorem codesOf_charsOfCode_append (code : Nat) (small : code < 0x110000) (rest : List Char) :
    codesOf (charsOfCode code ++ rest) = code :: codesOf rest := by
  by_cases surrogate : isSurrogate code = true
  · have bounds : 0xD800 ≤ code ∧ code < 0xE000 := by simpa [isSurrogate] using surrogate
    have standIn : (Char.ofNat (0x100000 + code)).toNat = 0x100000 + code :=
      toNat_ofNat _ (by omega) (by simp [isSurrogate]; omega)
    have read : unmarkedCode (Char.ofNat (0x100000 + code)) = code := by
      simp [unmarkedCode, standIn, isMarked, markerCode]
      omega
    have noMarker : (Char.ofNat (0x100000 + code)).toNat ≠ markerCode := by
      rw [standIn, markerCode]
      omega
    cases rest with
    | nil => simp [charsOfCode, surrogate, codesOf, read]
    | cons next rest => simp [charsOfCode, surrogate, codesOf, read, noMarker]
  · have plain : isSurrogate code = false := by simpa using surrogate
    have same := toNat_ofNat code small plain
    by_cases marked : isMarked code = true
    · have marker : (Char.ofNat markerCode).toNat = markerCode := by decide
      simp [charsOfCode, plain, marked, codesOf, marker, same]
    · have unmarked : isMarked code = false := by simpa using marked
      have read : unmarkedCode (Char.ofNat code) = code := by
        simp [unmarkedCode, same, unmarked]
      have noMarker : (Char.ofNat code).toNat ≠ markerCode := by
        intro equal
        rw [same] at equal
        simp [isMarked, equal, markerCode] at unmarked
      cases rest with
      | nil => simp [charsOfCode, plain, unmarked, codesOf, read]
      | cons next rest => simp [charsOfCode, plain, unmarked, codesOf, read, noMarker]

/-- The code points of a text are those that it was written with. -/
theorem codesOf_ofCodes (codes : List Nat) (small : ∀ code ∈ codes, code < 0x110000) :
    codesOf (ofCodes codes) = codes := by
  induction codes with
  | nil => rfl
  | cons code codes ih =>
      have first : code < 0x110000 := small code (by simp)
      have others : codesOf (ofCodes codes) = codes :=
        ih fun other member => small other (by simp [member])
      rw [ofCodes, List.flatMap_cons, codesOf_charsOfCode_append code first]
      exact congrArg (code :: ·) others

end Text

end TestSignal
