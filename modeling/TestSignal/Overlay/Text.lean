import TestSignal.Anchor
import TestSignal.Font
import TestSignal.Text.Blank

namespace TestSignal

namespace Overlay

/-!
# User text

The text of a configuration may have several lines, broken by line feeds or by a
backslash and the letter `n`.  Each line that is not blank is drawn by a filter
of its own; a blank one draws nothing but keeps its place in the block.
-/

/-- Cuts a text at its line feeds. -/
def cutAtLineFeeds : List Char → List (List Char)
  | [] => [[]]
  | c :: rest =>
      if c == '\n' then [] :: cutAtLineFeeds rest
      else
        match cutAtLineFeeds rest with
        | line :: more => (c :: line) :: more
        | [] => [[c]]

/-- The lines of a text, cut at line feeds and at written line breaks. -/
def textLines (text : String) : List String :=
  (cutAtLineFeeds (OptionValue.mergeLineBreaks text.toList)).map String.ofList

/-- The width of the letters' border. -/
def borderWidth? (weight : String) : Option Int :=
  if weight = "semi" then some 2 else if weight = "heavy" then some 4 else none

/-- The colour of the box behind the text. -/
def boxColor? (style : String) : Option String :=
  if style = "black_solid" then some "black@1"
  else if style = "black_soft" then some "black@0.6"
  else if style = "white_soft" then some "white@0.6"
  else if style = "yellow_soft" then some "yellow@0.6"
  else if style = "blue_soft" then some "blue@0.5"
  else none

/-- Looks a value up among texts; a list or mapping cannot be looked up. -/
def lookUp (find? : String → Option α) (value : Value) : Except Fault (Option α) :=
  match value with
  | .string text => .ok (find? text)
  | .list _ => .error (.unusableKey "list")
  | .object _ => .error (.unusableKey "dict")
  | _ => .ok none

/-- The letters' border, in the text's own colour. -/
def borderParams (weight color : Value) : Except Fault (List (String × OptionValue)) := do
  match ← lookUp borderWidth? weight with
  | some width => return [("borderw", .int width), ("bordercolor", .plain color)]
  | none => return [("borderw", .int 0)]

/-- The box behind the text, with a border that grows with the letters. -/
def boxParams (style : Value) (size : Number) : Except Fault (List (String × OptionValue)) := do
  match ← lookUp boxColor? style with
  | some color =>
      let border ← Number.roundHalfUp (← size.mul (Number.decimal 15 2))
      return [("box", .int 1), ("boxcolor", .text color), ("boxborderw", .int (max 4 border))]
  | none => return []

/--
The vertical position of a line.  Lines are a fifth more than a letter apart; at
a centre row the whole block is centred, elsewhere it starts at the anchor.
-/
def textLineY (baseY : String) (row : Row) (index count : Int) (size : Number) :
    Except Fault String := do
  if count ≤ 1 then return baseY
  else
    let spacing ← size.mul (Number.decimal 12 1)
    let shift ← (Number.int index).mul spacing
    match row with
    | .center =>
        let half ← (← (Number.int (count - 1)).mul spacing).div 2
        return "((h-text_h)/2-" ++ half.toShortText ++ ")+" ++ shift.toShortText
    | _ => return "(" ++ baseY ++ ")+" ++ shift.toShortText

/-- How the lines of a text are drawn. -/
structure TextStyle where
  font : Font
  size : Number
  color : Value
  weight : Value
  background : Value

/-- The filter that draws one line of the text. -/
def textFilter (style : TextStyle) (anchor : Anchor) (line : String) (index count : Nat) :
    Except Fault Filter := do
  let place := Placement.text anchor
  let border ← borderParams style.weight style.color
  let box ← boxParams style.background style.size
  let y ← textLineY place.y anchor.row index count style.size
  return {
    name := "drawtext"
    params :=
      [("text", .literal line), style.font.param, ("fontsize", .number style.size),
        ("fontcolor", .plain style.color)] ++ border ++ box ++ [("x", .text place.x),
        ("y", .text y)] }

/-- One filter per line of the text that is not blank, in order. -/
def textFilters (text : String) (style : TextStyle) (anchor : Anchor) :
    Except Fault (List Filter) :=
  let lines := textLines text
  (lines.zipIdx.filter fun (line, _) => Text.hasInk line).mapM fun (line, index) =>
    textFilter style anchor line index lines.length

end Overlay

end TestSignal
