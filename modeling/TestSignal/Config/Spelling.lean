namespace TestSignal

namespace Spelling

/-!
# Spelling of field names

A field is named by words.  A configuration in the control panel's spelling
capitalises every word but the first; the other spelling joins the words in
lower case by underscores.  Reading turns every capital letter into an underscore
and its small letter, so both spellings of a name meet in the second one.

Only ASCII capitals are turned.  A capital of another script cannot make a field
name out of another key, because all field names are ASCII and none has an
underscore before a `k`, the one ASCII letter that a capital outside ASCII is
lowered to.
-/

def underscoredChar (c : Char) : List Char := if c.isUpper then ['_', c.toLower] else [c]

/-- The underscored spelling of a name. -/
def underscored (name : String) : String :=
  String.ofList (name.toList.flatMap underscoredChar)

/-- Drops every underscore and capitalises the character after it. -/
def capitalizedChars : List Char → List Char
  | '_' :: '_' :: rest => capitalizedChars ('_' :: rest)
  | '_' :: c :: rest => c.toUpper :: capitalizedChars rest
  | ['_'] => []
  | c :: rest => c :: capitalizedChars rest
  | [] => []

/-- The control panel's spelling of an underscored name. -/
def capitalized (name : String) : String :=
  String.ofList (capitalizedChars name.toList)

end Spelling

end TestSignal
