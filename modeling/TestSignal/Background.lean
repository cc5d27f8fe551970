import TestSignal.Value

namespace TestSignal

/-!
# Backgrounds

The background is the primary picture: a generated source, a still picture from
the pictures directory, or an uploaded one.  A generated source that is made at
the output size needs no scaling and is called native.
-/

/-- Where the picture of a background comes from. -/
inductive BackgroundSource where
  /-- A source with options that name no size and no rate. -/
  | fixed (description : String)
  /-- A source made at the output size and rate: its head, and what follows the rate. -/
  | sized (head tail : String)
  /-- A still picture of the pictures directory. -/
  | picture (file : String)
  /-- The picture that the configuration names. -/
  | upload
  deriving DecidableEq

structure Background where
  id : String
  name : String
  kind : String
  source : BackgroundSource
  deriving DecidableEq

namespace BackgroundSource

/-- The description of a generated source for a frame size and rate. -/
def describe (size rate : String) : BackgroundSource → Option String
  | fixed description => some description
  | sized head tail => some (head ++ "size=" ++ size ++ ":rate=" ++ rate ++ tail)
  | _ => none

/-- The description with placeholders for the frame size and rate. -/
def template? (source : BackgroundSource) : Option String :=
  source.describe "\x7bsize\x7d" "\x7bfps\x7d"

def picture? : BackgroundSource → Option String
  | picture file => some file
  | _ => none

/-- Only a source made at the output size needs no scaling. -/
def isNative : BackgroundSource → Bool
  | sized _ _ => true
  | _ => false

end BackgroundSource

namespace Background

def isNative (background : Background) : Bool := background.source.isNative

/-- A generator that is named by its own identifier. -/
def generator (id name kind : String) (tail : String := "") : Background :=
  { id, name, kind, source := .sized (id ++ "=") tail }

/-- A plain colour. -/
def plainColor (id name kind color : String) : Background :=
  { id, name, kind, source := .sized ("color=c=" ++ color ++ ":") "" }

/-- The background used when no known one is asked for. -/
def standard : Background := plainColor "blue" "Blue Background" "color" "blue"

/-- The background whose picture is uploaded. -/
def customId : String := "custom"

def all : List Background :=
  [ standard,
    plainColor "black" "Black Background" "color" "black",
    plainColor "white" "White Background" "color" "white",
    { id := "bars", name := "Color Bars", kind := "image", source := .picture "bars.png" },
    { id := "resolution_test", name := "Resolution Test Chart", kind := "image"
      source := .picture "resolution_test.png" },
    { id := customId, name := "Custom Background", kind := "upload", source := .upload },
    generator "allrgb" "All RGB Colors" "source",
    generator "allyuv" "All YUV Colors" "source",
    generator "cellauto" "Cellular Automaton" "animation",
    plainColor "color" "Solid Color" "source" "blue",
    generator "coreimagesrc" "CoreImage Generators" "source" ":list_generators=1",
    generator "frei0r_src" "Frei0r Video Sources" "source",
    generator "gradients" "Gradient Animation" "animation",
    { id := "haldclutsrc", name := "Hald CLUT Identity", kind := "source"
      source := .fixed "haldclutsrc=level=6" },
    generator "life" "Game of Life" "animation",
    generator "mandelbrot" "Mandelbrot Fractal" "animation",
    generator "mptestsrc" "Multi-Pattern Test" "test",
    generator "nullsrc" "Empty/Black Source" "source",
    generator "openclsrc" "OpenCL Generators" "source",
    generator "pal75bars" "PAL 75% Bars" "test",
    generator "pal100bars" "PAL 100% Bars" "test",
    generator "rgbtestsrc" "RGB Test Pattern" "test",
    generator "sierpinski" "Sierpinski Fractal" "animation",
    generator "smptebars" "SMPTE SD Bars" "test",
    generator "smptehdbars" "SMPTE HD Bars" "test",
    generator "testsrc" "Classic Test Pattern" "test",
    generator "testsrc2" "Modern Test Pattern" "test",
    generator "yuvtestsrc" "YUV Test Pattern" "test" ]

def ids : List String := all.map Background.id

def ofId? (id : String) : Option Background := all.find? fun background => background.id = id

/-- The background that a value names; anything else means the standard one. -/
def ofValue (value : Value) : Background :=
  match value with
  | .string id => (ofId? id).getD standard
  | _ => standard

/-- The standard background is the listed one of its name. -/
theorem ofId?_standard : ofId? standard.id = some standard := by decide

end Background

end TestSignal
