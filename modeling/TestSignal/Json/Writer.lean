import TestSignal.Value

namespace TestSignal

namespace Json

/-!
# Writing JSON

JSON is written in ASCII: a character outside the printable ASCII range is an
escape of its UTF-16 units, in lower-case digits.  Numbers keep their kind, a
binary64 number always showing a point or an exponent.  The indented layout puts
every item and entry on a line of its own.
-/

inductive Layout where
  | compact
  | indented
  deriving DecidableEq

/-- The escape of one UTF-16 unit. -/
def unitEscape (unit : Nat) : List Char := '\x5c' :: 'u' :: Text.hexDigits 4 unit

def escapedChar (c : Char) : List Char :=
  if c == '\x22' || c == '\x5c' then ['\x5c', c]
  else if c == '\n' then ['\x5c', 'n']
  else if c == '\r' then ['\x5c', 'r']
  else if c == '\t' then ['\x5c', 't']
  else if c == '\x0c' then ['\x5c', 'f']
  else if c == '\x08' then ['\x5c', 'b']
  else if 32 ≤ c.toNat && c.toNat < 127 then [c]
  else if c.toNat < 0x10000 then unitEscape c.toNat
  else
    let offset := c.toNat - 0x10000
    unitEscape (0xD800 + offset / 1024) ++ unitEscape (0xDC00 + offset % 1024)

/-- A code point in a string; a surrogate is written as the unit that it is. -/
def escapedCode (code : Nat) : List Char :=
  if Text.isSurrogate code then unitEscape code else escapedChar (Char.ofNat code)

def stringText (text : String) : String :=
  String.ofList ('\x22' :: (Text.codesOf text.toList).flatMap escapedCode ++ ['\x22'])

/-- The numbers that are not finite are written as words. -/
def numberText : Number → String
  | .float .nan => "NaN"
  | .float (.infinite negative) => if negative then "-Infinity" else "Infinity"
  | number => number.toText

/-- What stands between two tokens at a depth: nothing, or a new line indented by two per level. -/
def gap (layout : Layout) (depth : Nat) : String :=
  match layout with
  | .compact => ""
  | .indented => "\n" ++ String.ofList (List.replicate (2 * depth) ' ')

def enclosed (layout : Layout) (depth : Nat) (opening closing : String) : List String → String
  | [] => opening ++ closing
  | parts =>
      opening ++ gap layout (depth + 1) ++
        String.intercalate ("," ++ gap layout (depth + 1)) parts ++ gap layout depth ++ closing

mutual

def write (layout : Layout) (depth : Nat) : Value → String
  | .null => "null"
  | .bool flag => if flag then "true" else "false"
  | .number value => numberText value
  | .string text => stringText text
  | .list items => enclosed layout depth "[" "]" (writeItems layout (depth + 1) items)
  | .object entries =>
      enclosed layout depth "\x7b" "\x7d" (writeEntries layout (depth + 1) entries)

def writeItems (layout : Layout) (depth : Nat) : List Value → List String
  | [] => []
  | item :: rest => write layout depth item :: writeItems layout depth rest

def writeEntries (layout : Layout) (depth : Nat) : List (String × Value) → List String
  | [] => []
  | (key, value) :: rest =>
      (stringText key ++ (if layout = .compact then ":" else ": ") ++ write layout depth value) ::
        writeEntries layout depth rest

end

/-- A value as one text. -/
def toText (layout : Layout) (value : Value) : String := write layout 0 value

end Json

end TestSignal
