namespace TestSignal

namespace Text

/-!
# Blank characters and lines

Text comes from people, from a device listing and from a time client, in any
script.  *Blank* is Unicode white space: the property, together with the four
separator controls U+001C to U+001F.  A *line* ends at any of the characters
that Unicode gives a mandatory break, where a carriage return and the line feed
after it count as one.
-/

/-- White space in any script, with the four separator controls. -/
def isBlank (c : Char) : Bool :=
  let n := c.toNat
  (9 ≤ n && n ≤ 13) || (28 ≤ n && n ≤ 32) || n == 0x85 || n == 0xA0 || n == 0x1680 ||
    (0x2000 ≤ n && n ≤ 0x200A) || n == 0x2028 || n == 0x2029 || n == 0x202F ||
    n == 0x205F || n == 0x3000

/-- A character at which a line ends. -/
def endsLine (c : Char) : Bool :=
  let n := c.toNat
  (10 ≤ n && n ≤ 13) || (28 ≤ n && n ≤ 30) || n == 0x85 || n == 0x2028 || n == 0x2029

/-- Drops the characters of a class at both ends. -/
def trimBy (drop : Char → Bool) (text : List Char) : List Char :=
  ((text.dropWhile drop).reverse.dropWhile drop).reverse

/-- The text without the blank characters at its ends. -/
def trim (text : String) : String :=
  String.ofList (trimBy isBlank text.toList)

/-- Whether a text holds a character that is not blank. -/
def hasInk (text : String) : Bool :=
  text.toList.any fun c => !isBlank c

/-- Puts a character in front of the first line. -/
def consToFirst (c : Char) : List (List Char) → List (List Char)
  | [] => [[c]]
  | line :: more => (c :: line) :: more

/-- The lines of a text, without their ends. A text that ends a line has no line after it. -/
def lineChars : List Char → List (List Char)
  | [] => []
  | '\r' :: '\n' :: rest => [] :: lineChars rest
  | c :: rest => if endsLine c then [] :: lineChars rest else consToFirst c (lineChars rest)

def lines (text : String) : List String :=
  (lineChars text.toList).map String.ofList

/-! ## Facts about the classes -/

/-- A line end is blank, so a line that is not blank keeps its ink when trimmed. -/
theorem isBlank_of_endsLine {c : Char} (ends : endsLine c = true) : isBlank c = true := by
  simp only [endsLine, isBlank, Bool.or_eq_true, Bool.and_eq_true, decide_eq_true_eq,
    beq_iff_eq] at ends ⊢
  omega

/-- No line holds a character that ends lines. -/
theorem endsLine_of_mem_lineChars {text line : List Char} {c : Char}
    (inLines : line ∈ lineChars text) (inLine : c ∈ line) : endsLine c = false := by
  fun_induction lineChars text generalizing line with
  | case1 => simp at inLines
  | case2 rest ih =>
      rcases List.mem_cons.mp inLines with rfl | later
      · simp at inLine
      · exact ih later inLine
  | case3 head rest _ ends ih =>
      rcases List.mem_cons.mp inLines with rfl | later
      · simp at inLine
      · exact ih later inLine
  | case4 head rest _ inside ih =>
      cases lineList : lineChars rest with
      | nil =>
          simp only [lineList, consToFirst, List.mem_singleton] at inLines
          subst inLines
          simp only [List.mem_singleton] at inLine
          simpa [inLine] using inside
      | cons first more =>
          simp only [lineList, consToFirst, List.mem_cons] at inLines
          rcases inLines with rfl | later
          · rcases List.mem_cons.mp inLine with rfl | inFirst
            · simpa using inside
            · exact ih (by simp [lineList]) inFirst
          · exact ih (by simp [lineList, later]) inLine

end Text

end TestSignal
