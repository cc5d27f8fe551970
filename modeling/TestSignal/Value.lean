import TestSignal.Number.Reading
import TestSignal.Number.Written
import TestSignal.Text.Quoted

namespace TestSignal

/-!
# Loosely typed values

A control surface sends values whose types nobody has checked: a level as a
number or as the text of a label, a flag as any value at all.  `Value` is such a
value, with the kinds of JSON.  An object keeps its entries in the order in
which their keys were first given, since a printed configuration shows it.
-/

inductive Value where
  | null
  | bool (flag : Bool)
  | number (value : Number)
  | string (text : String)
  | list (items : List Value)
  | object (entries : List (String × Value))
  deriving Inhabited

namespace Value

/-- A whole number as a value. -/
def int (value : Int) : Value := number (.int value)

/-- An optional text, absent as null. -/
def optionalString : Option String → Value
  | some text => string text
  | none => null

/-! ## Reading a value's kind -/

def isNull : Value → Bool
  | null => true
  | _ => false

def string? : Value → Option String
  | string text => some text
  | _ => none

def list? : Value → Option (List Value)
  | list items => some items
  | _ => none

def entries? : Value → Option (List (String × Value))
  | object entries => some entries
  | _ => none

/-- The text that a value is, if it is a text with at least one character. -/
def nonEmptyString? : Value → Option String
  | string text => if text.isEmpty then none else some text
  | _ => none

/--
Whether a value counts as switched on: everything but null, false, the zeros
and what is empty.
-/
def isOn : Value → Bool
  | null => false
  | bool flag => flag
  | number value => !value.isZero
  | string text => !text.isEmpty
  | list items => !items.isEmpty
  | object entries => !entries.isEmpty

/-! ## Entries by key -/

/-- Puts a value under a key: in its old place if the key is known, last otherwise. -/
def insertEntry (key : String) (value : α) : List (String × α) → List (String × α)
  | [] => [(key, value)]
  | (known, old) :: rest =>
      if known = key then (key, value) :: rest
      else (known, old) :: insertEntry key value rest

/-- Entries with distinct keys: a repeated key keeps its first place and its last value. -/
def collectEntries (pairs : List (String × α)) : List (String × α) :=
  pairs.foldl (fun entries pair => insertEntry pair.1 pair.2 entries) []

/-- The value under a key, when the entries are read in order and later ones win. -/
def valueAt? (key : String) : List (String × α) → Option α
  | [] => none
  | (known, value) :: rest =>
      match valueAt? key rest with
      | some later => some later
      | none => if known = key then some value else none

/-! ## Values as text -/

mutual

/-- A value as it is written inside a list or mapping: texts are quoted there. -/
def toText : Value → String
  | null => "None"
  | bool flag => if flag then "True" else "False"
  | number value => value.toText
  | string text => Text.quoted text
  | list items => "[" ++ String.intercalate ", " (itemTexts items) ++ "]"
  | object entries => "\x7b" ++ String.intercalate ", " (entryTexts entries) ++ "\x7d"

def itemTexts : List Value → List String
  | [] => []
  | item :: rest => item.toText :: itemTexts rest

def entryTexts : List (String × Value) → List String
  | [] => []
  | (key, value) :: rest => (Text.quoted key ++ ": " ++ value.toText) :: entryTexts rest

end

/-- A value where a text is expected: a text as it is, anything else as written in a list. -/
def asText : Value → String
  | string text => text
  | other => other.toText

/-! ## Values as numbers -/

/--
The finite number that a value stands for: a number, or the text of one.
Flags are not numbers, and neither are infinities; an integer beyond the finite
binary64 numbers is a fault.
-/
def asNumber : Value → Except Fault (Option Binary64)
  | number (.int whole) => do
      let x ← (Number.int whole).toBinary64
      return some x
  | number (.float x) => .ok x.finite?
  | string text => .ok ((Reading.binary64? text).bind Binary64.finite?)
  | _ => .ok none

end Value

end TestSignal
