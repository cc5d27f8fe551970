import TestSignal.Value

namespace TestSignal

/-!
# Output formats

An output format fixes the frame size and rate, whether fields are interlaced,
and the options with which the engine writes to the output card.  Interlaced
formats are named by their field rate; their frame rate on the wire is half of
it.
-/

structure Format where
  id : String
  width : Int
  height : Int
  fps : Number
  interlaced : Bool
  outputArgs : List String
  deriving DecidableEq

namespace Format

/-- The frame size as width and height joined by a cross. -/
def resolution (format : Format) : String :=
  toString format.width ++ "x" ++ toString format.height

/-- The options of the output card: pixel format, size, rate, fields and card mode. -/
def cardArgs (size rate mode : String) (fields : List String) : List String :=
  ["-pix_fmt", "uyvy422", "-s", size, "-r", rate] ++ fields ++
    ["-f", "decklink", "-format_code", mode, "-raw_format", "uyvy422"]

def topFieldFirst : List String := ["-field_order", "tt"]

/-- The formats of the output card, the standard one first. -/
def all : List Format :=
  [ { id := "1080i50", width := 1920, height := 1080, fps := 50, interlaced := true
      outputArgs := cardArgs "1920x1080" "25" "Hi50" topFieldFirst },
    { id := "1080i60", width := 1920, height := 1080, fps := 60, interlaced := true
      outputArgs := cardArgs "1920x1080" "30" "Hi60" topFieldFirst },
    { id := "1080p25", width := 1920, height := 1080, fps := 25, interlaced := false
      outputArgs := cardArgs "1920x1080" "25" "Hp25" [] },
    { id := "1080p30", width := 1920, height := 1080, fps := 30, interlaced := false
      outputArgs := cardArgs "1920x1080" "30" "Hp30" [] },
    { id := "720p50", width := 1280, height := 720, fps := 50, interlaced := false
      outputArgs := cardArgs "1280x720" "50" "Hp50" [] },
    { id := "720p60", width := 1280, height := 720, fps := 60, interlaced := false
      outputArgs := cardArgs "1280x720" "60" "Hp60" [] },
    { id := "576i50", width := 720, height := 576, fps := 50, interlaced := true
      outputArgs :=
        cardArgs "720x576" "25" "pal" (topFieldFirst ++ ["-flags", "+ilme+ildct"]) } ]

/-- The identifier of the standard format. -/
def standardId : String := "1080i50"

/-- The format used when no known one is asked for. -/
def standard : Format :=
  { id := standardId, width := 1920, height := 1080, fps := 50, interlaced := true
    outputArgs := cardArgs "1920x1080" "25" "Hi50" topFieldFirst }

def ids : List String := all.map Format.id

def ofId? (id : String) : Option Format := all.find? fun format => format.id = id

/-- The format that a value names; anything else means the standard one. -/
def ofValue (value : Value) : Format :=
  match value with
  | .string id => (ofId? id).getD standard
  | _ => standard

/-- The identifiers with the names shown to an operator. -/
def labels : List (String × String) :=
  [ ("1080i50", "1080i50 (1920x1080 interlaced)"),
    ("1080i60", "1080i60 (1920x1080 interlaced)"),
    ("1080p25", "1080p25 (1920x1080 progressive)"),
    ("1080p30", "1080p30 (1920x1080 progressive)"),
    ("720p50", "720p50 (1280x720 progressive)"),
    ("720p60", "720p60 (1280x720 progressive)"),
    ("576i50", "576i50 (720x576 interlaced PAL)") ]

/-- The standard format is the listed one of its name. -/
theorem ofId?_standardId : ofId? standardId = some standard := by decide

end Format

end TestSignal
