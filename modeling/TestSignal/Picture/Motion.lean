import TestSignal.Animation
import TestSignal.Expr
import TestSignal.Format
import TestSignal.Picture.Chain

namespace TestSignal

namespace Picture

/-!
# Moving elements

The square bounces between the edges of the frame: each coordinate is a triangle
wave of the frame number, eight pixels per frame across and six down.  The
staircase has six steps of luma that drift slowly, and a bright pulse travels
over it.
-/

/-- The edge of the moving square: a share of the shorter side, at least 40. -/
def blockSize (format : Format) : Except Fault Int := do
  let shorter := Number.int (min format.width format.height)
  return max 40 (← Number.roundHalfUp (← shorter.mul (Number.decimal 9 2)))

/-- A number in an expression, to two places. -/
def twoPlaces (number : Number) : Except Fault Expr := do
  return .fixed 2 (← number.toBinary64)

/--
A coordinate that runs from the limit to zero and back, `stepsPerFrame` pixels a
frame.  The elapsed time is counted in frames, over the rate that the speed is
multiplied with again.
-/
def bounce (limit : Int) (stepsPerFrame : Int) (rate : Number) : Except Fault Expr := do
  if limit ≤ 0 then return 0
  else
    let speed ← twoPlaces (← (Number.int stepsPerFrame).mul rate)
    let period ← twoPlaces (.int (limit * 2))
    let elapsed := Expr.paren (.div (.symbol "n") (.shown rate))
    return .call .abs (.sub (.mod (.mul elapsed speed) period) (.integer limit))

/-- The position of the square, a pair of expressions. -/
structure SquarePath where
  x : Expr
  y : Expr

def squarePath (format : Format) : Except Fault SquarePath := do
  let size ← blockSize format
  let rate := Number.max 1 format.fps
  return {
    x := ← bounce (max 0 (format.width - size)) 8 rate
    y := ← bounce (max 0 (format.height - size)) 6 rate }

/-- The square is a picture of its own, laid over the line. -/
def squareSteps (format : Format) (pad : String) : Except Fault (List Step) := do
  let path ← squarePath format
  return [
    .onLine "anim"
      [{ name := "overlay"
         params := [("x", .quoted path.x.text), ("y", .quoted path.y.text)] }]
      [.pad pad] ]

def staircaseSteps : Nat := 6

/-- The step of the staircase at a line of the frame, drifting with time. -/
def stairExpr (height : Int) : Expr :=
  .floor (.mod
    (.add
      (.paren (.mul (.paren (.div (.symbol "Y") (.integer height))) (.integer staircaseSteps)))
      (.paren (.mul (.symbol "T") (.places 35 2))))
    (.integer staircaseSteps))

/-- The luma of a step; the five rises share 180 levels above the lowest. -/
def lumaText (height : Int) : String := "60 + 36*" ++ (stairExpr height).text

def opacityExpr (height : Int) : Expr :=
  .call3 .choose (.call2 .gt (stairExpr height) 0) 200 120

/-- The left edge of the pulse, which crosses the frame again and again. -/
def pulseX (format : Format) : Except Fault Expr := do
  let speed ← twoPlaces (← (Number.decimal 45 2).mul (.int format.width))
  return .mod (.mul (.paren (.div (.symbol "n") (.shown format.fps))) speed)
    (.integer format.width)

/-- The stairs and the pulse are made beside the line and laid over it. -/
def staircasePulseSteps (format : Format) (pad : String) : Except Fault (List Step) := do
  let luma := OptionValue.quoted (lumaText format.height)
  let pulseWidth ←
    Number.roundHalfUp (← (Number.int format.width).mul (Number.decimal 12 3))
  let pulse ← pulseX format
  return [
    .beside "anim" [.pad pad]
      [ { name := "format", args := [.text "rgba"] },
        { name := "geq"
          params :=
            [("r", luma), ("g", luma), ("b", luma),
              ("a", .quoted (opacityExpr format.height).text)] } ],
    .beside "anim" [.latest]
      [ { name := "drawbox"
          params :=
            [ ("x", .quoted pulse.text), ("y", .int 0), ("w", .int (max 4 pulseWidth)),
              ("h", .int format.height), ("color", .text "white@0.75"), ("t", .text "fill") ] } ],
    .onLine "anim"
      [{ name := "overlay", args := [.int 0, .int 0], params := [("shortest", .int 1)] }]
      [.latest] ]

end Picture

end TestSignal
