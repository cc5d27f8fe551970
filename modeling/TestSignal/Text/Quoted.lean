import TestSignal.Text.Code
import TestSignal.Text.Hex
import TestSignal.Text.Showable

namespace TestSignal

namespace Text

/-!
# Quoted text in messages

A message that names a text quotes it, so that blanks and controls in it are
seen.  The quotes are single, unless the text holds a single quote and no
double one.  The backslash, the chosen quote and every character that cannot be
shown are written as escapes.
-/

def singleQuote : Char := '\x27'
def doubleQuote : Char := '\x22'
def backslash : Char := '\x5c'

/-- A character inside quotes: as itself, by a short escape, or by its code point. -/
def quotedChar (quote c : Char) : List Char :=
  if c == quote || c == backslash then [backslash, c]
  else if c == '\n' then [backslash, 'n']
  else if c == '\r' then [backslash, 'r']
  else if c == '\t' then [backslash, 't']
  else if isShowable c then [c]
  else if c.toNat < 0x100 then backslash :: 'x' :: hexDigits 2 c.toNat
  else if c.toNat < 0x10000 then backslash :: 'u' :: hexDigits 4 c.toNat
  else backslash :: 'U' :: hexDigits 8 c.toNat

/-- A code point inside quotes; a surrogate has no character that could be shown. -/
def quotedCode (quote : Char) (code : Nat) : List Char :=
  if isSurrogate code then backslash :: 'u' :: hexDigits 4 code
  else quotedChar quote (Char.ofNat code)

/-- A text between the quotes that need the fewer escapes. -/
def quoted (text : String) : String :=
  let chars := text.toList
  let quote :=
    if chars.contains singleQuote && !chars.contains doubleQuote then doubleQuote
    else singleQuote
  String.ofList (quote :: (codesOf chars).flatMap (quotedCode quote) ++ [quote])

/-- A list of quoted texts between brackets. -/
def quotedList (texts : List String) : String :=
  "[" ++ String.intercalate ", " (texts.map quoted) ++ "]"

end Text

end TestSignal
