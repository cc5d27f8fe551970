import TestSignal.Command

namespace TestSignal

/-!
# Numbers that a compile cannot tell apart

A configuration may give a number as an integer or as a binary64 number, and a written
configuration shows which of the two it is.  The compiler does not: it takes the letter
size, the frequency and the level only for the binary64 numbers that they stand for.
Other numbers that stand for the same ones therefore give the same compile, down to
the fault if there is one.
-/

section Readers

variable {left right : Value}

theorem Picture.textSize_congr (sized : left.asNumber = right.asNumber) :
    textSize left = textSize right := by
  unfold textSize
  rw [sized]

theorem Audio.synthesize_congr (tuned : left.asNumber = right.asNumber)
    (channelMap idCycle flash force400 : Value) (fps : Number) :
    synthesize channelMap idCycle flash force400 left fps =
      synthesize channelMap idCycle flash force400 right fps := by
  unfold synthesize frequencyOf
  rw [tuned]

theorem Audio.gainOf_congr (leveled : left.asNumber = right.asNumber) :
    gainOf left = gainOf right := by
  unfold gainOf
  rw [leveled]

/-- The status block reads the level by the first number in it. -/
theorem Overlay.statusLines_congr
    (labelled : (Config.labelledNumber left).asNumber = (Config.labelledNumber right).asNumber)
    (formatId : String) (plan : Audio.Plan) :
    statusLines formatId plan left = statusLines formatId plan right := by
  unfold statusLines levelLabel
  rw [labelled]

end Readers

namespace RawConfig

/-- A configuration with other values in the place of its three numbers. -/
def withNumbers (config : RawConfig) (fontSize audioFreq audioLevelDb : Value) : RawConfig :=
  { config with fontSize, audioFreq, audioLevelDb }

/-- Values that stand for the same binary64 numbers as those of a configuration. -/
structure ReadsAs (config : RawConfig) (fontSize audioFreq audioLevelDb : Value) : Prop where
  font_size : fontSize.asNumber = config.fontSize.asNumber
  audio_freq : audioFreq.asNumber = config.audioFreq.asNumber
  audio_level_db : audioLevelDb.asNumber = config.audioLevelDb.asNumber
  audio_level_label : (Config.labelledNumber audioLevelDb).asNumber =
    (Config.labelledNumber config.audioLevelDb).asNumber

namespace ReadsAs

variable {config : RawConfig} {fontSize audioFreq audioLevelDb : Value}
  (alike : config.ReadsAs fontSize audioFreq audioLevelDb)

include alike

theorem textSteps (fonts : Fonts) :
    Picture.textSteps (config.withNumbers fontSize audioFreq audioLevelDb) fonts =
      Picture.textSteps config fonts := by
  unfold Picture.textSteps withNumbers
  dsimp only
  rw [Picture.textSize_congr alike.font_size]

theorem statusSteps (scene : Picture.Scene) (fonts : Fonts) :
    Picture.statusSteps (config.withNumbers fontSize audioFreq audioLevelDb) scene fonts =
      Picture.statusSteps config scene fonts := by
  unfold Picture.statusSteps withNumbers
  dsimp only
  rw [Overlay.statusLines_congr alike.audio_level_label]

/-- The other features of the picture read none of the numbers. -/
theorem graph (scene : Picture.Scene) (fonts : Fonts) :
    Picture.graph (config.withNumbers fontSize audioFreq audioLevelDb) scene fonts =
      Picture.graph config scene fonts := by
  unfold Picture.graph Picture.steps
  rw [alike.textSteps, alike.statusSteps]
  rfl

theorem compile (settings : Settings) (clock : Clock.Reading) (fonts : Fonts)
    (devices : Device.Cache) :
    Command.compile (config.withNumbers fontSize audioFreq audioLevelDb) settings clock fonts
      devices = Command.compile config settings clock fonts devices := by
  unfold Command.compile
  simp only [alike.graph]
  unfold withNumbers
  dsimp only
  rw [Audio.gainOf_congr alike.audio_level_db, Audio.synthesize_congr alike.audio_freq]
  rfl

end ReadsAs

end RawConfig

end TestSignal
