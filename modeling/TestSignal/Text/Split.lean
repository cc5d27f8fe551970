namespace TestSignal

namespace Text

/-!
# Parts of texts

Paths, host names and addresses are texts with separators in them.  A text with
`n` separators has `n + 1` pieces, of which some may be empty.
-/

/-- The pieces of a text between separators; there is at least one. -/
def pieces (isSeparator : Char → Bool) : List Char → List (List Char)
  | [] => [[]]
  | c :: rest =>
      if isSeparator c then [] :: pieces isSeparator rest
      else
        match pieces isSeparator rest with
        | first :: more => (c :: first) :: more
        | [] => [[c]]

/-- Cuts a text at the first `mark`, which belongs to neither part. -/
def cut (mark : Char) (text : List Char) : List Char × List Char :=
  (text.takeWhile (· != mark), (text.dropWhile (· != mark)).drop 1)

/-- What follows the last `mark`, or everything. -/
def afterLast (mark : Char) (text : List Char) : List Char :=
  (text.reverse.takeWhile (· != mark)).reverse

theorem length_pieces (isSeparator : Char → Bool) (text : List Char) :
    (pieces isSeparator text).length = text.countP isSeparator + 1 := by
  induction text with
  | nil => rfl
  | cons c rest ih =>
      by_cases separates : isSeparator c = true
      · simp [pieces, separates, ih]
      · simp only [pieces, separates]
        cases found : pieces isSeparator rest with
        | nil => simp [found] at ih
        | cons first more =>
            rw [found] at ih
            simp only [List.length_cons] at ih
            simp [separates]
            omega

end Text

end TestSignal
