import TestSignal.Anchor
import TestSignal.Value

namespace TestSignal

/-!
# Broadcast configurations

A configuration says everything that defines the generated signal.  It exists in
two forms.  A `Config` has been checked: every field has the type that it is
used with, numbers are within their limits, and identifiers are known ones.  A
`RawConfig` has the same fields with values of any type; the compiler accepts it,
so it takes each value for what it can be.  A checked configuration is a raw one
by `Config.toRaw`.
-/

/-- How many channel slots an audio output has. -/
def channelSlots : Nat := 8

/-! ## Choices and limits -/

def fontFamilies : List String := ["sf_mono", "arial_bold", "arial_black", "impact"]

def textWeights : List String := ["normal", "semi", "heavy"]

def textBackgrounds : List String :=
  ["none", "black_solid", "black_soft", "white_soft", "yellow_soft", "blue_soft"]

namespace Limit

def lowestFrequency : Number := 20
def highestFrequency : Number := 20000
def lowestLevel : Number := .float (Binary64.ofDecimal true 120 0)
def highestLevel : Number := .float (Binary64.ofDecimal false 12 0)
def longestLatencyMs : Int := 5000
def smallestOverlayFont : Int := 16
def largestOverlayFont : Int := 160
def lowestFlashOffset : Int := -100
def highestFlashOffset : Int := 100

end Limit

/-! ## The two forms -/

/-- A checked configuration; the defaults make the standard signal. -/
structure Config where
  background : String := "blue"
  customBackground : Option String := none
  text : String := "ACTUA PARIS"
  fontSize : Number := 80
  fontFamily : String := "sf_mono"
  textWeight : String := "normal"
  textColor : String := "white"
  textBackground : String := "none"
  textPosition : Anchor := .center
  showLogo : Bool := true
  logoFile : Option String := none
  logoPosition : Anchor := .topRight
  animation : Option String := none
  videoFormat : String := "1080i50"
  audioFreq : Number := 1000
  audioLevelDb : Number := .float Binary64.zero
  audioChannelMap : List Bool := [true, true, false, false, false, false, false, false]
  audioChannelIdCycle : List Bool := List.replicate channelSlots false
  audioChannelFlash : List Bool := List.replicate channelSlots false
  audioChannelForce400 : List Bool := List.replicate channelSlots false
  showClock : Bool := false
  clockPosition : Anchor := .bottomRight
  clockLatencyMs : Int := 200
  showConfigOverlay : Bool := false
  configOverlayFontSize : Option Int := none
  configOverlayPosition : Anchor := .topLeft
  flashOverlayOffset : Int := 0
  decklinkDevice : Option String := none
  deriving DecidableEq

/-- A configuration whose values may have any type. -/
structure RawConfig where
  background : Value
  customBackground : Value
  text : Value
  fontSize : Value
  fontFamily : Value
  textWeight : Value
  textColor : Value
  textBackground : Value
  textPosition : Value
  showLogo : Value
  logoFile : Value
  logoPosition : Value
  animation : Value
  videoFormat : Value
  audioFreq : Value
  audioLevelDb : Value
  audioChannelMap : Value
  audioChannelIdCycle : Value
  audioChannelFlash : Value
  audioChannelForce400 : Value
  showClock : Value
  clockPosition : Value
  clockLatencyMs : Value
  showConfigOverlay : Value
  configOverlayFontSize : Value
  configOverlayPosition : Value
  flashOverlayOffset : Value
  decklinkDevice : Value

namespace Config

/-- The standard signal. -/
def standard : Config := {}

def flagList (flags : List Bool) : Value := .list (flags.map .bool)

/-- The same configuration with its values untyped. -/
def toRaw (config : Config) : RawConfig where
  background := .string config.background
  customBackground := .optionalString config.customBackground
  text := .string config.text
  fontSize := .number config.fontSize
  fontFamily := .string config.fontFamily
  textWeight := .string config.textWeight
  textColor := .string config.textColor
  textBackground := .string config.textBackground
  textPosition := .string config.textPosition.label
  showLogo := .bool config.showLogo
  logoFile := .optionalString config.logoFile
  logoPosition := .string config.logoPosition.label
  animation := .optionalString config.animation
  videoFormat := .string config.videoFormat
  audioFreq := .number config.audioFreq
  audioLevelDb := .number config.audioLevelDb
  audioChannelMap := flagList config.audioChannelMap
  audioChannelIdCycle := flagList config.audioChannelIdCycle
  audioChannelFlash := flagList config.audioChannelFlash
  audioChannelForce400 := flagList config.audioChannelForce400
  showClock := .bool config.showClock
  clockPosition := .string config.clockPosition.label
  clockLatencyMs := .int config.clockLatencyMs
  showConfigOverlay := .bool config.showConfigOverlay
  configOverlayFontSize :=
    match config.configOverlayFontSize with
    | some size => .int size
    | none => .null
  configOverlayPosition := .string config.configOverlayPosition.label
  flashOverlayOffset := .int config.flashOverlayOffset
  decklinkDevice := .optionalString config.decklinkDevice

/--
Whether two configurations say the same: all fields agree, where numbers are
compared by value and not by kind.
-/
def agrees (a b : Config) : Bool :=
  a.fontSize.same b.fontSize && a.audioFreq.same b.audioFreq &&
    a.audioLevelDb.same b.audioLevelDb &&
    decide ({ a with fontSize := 0, audioFreq := 0, audioLevelDb := 0 } =
      { b with fontSize := 0, audioFreq := 0, audioLevelDb := 0 })

end Config

namespace RawConfig

/-- The fields by name, in the order in which a configuration lists them. -/
def fields (config : RawConfig) : List (String × Value) :=
  [ ("background", config.background),
    ("custom_background", config.customBackground),
    ("text", config.text),
    ("font_size", config.fontSize),
    ("font_family", config.fontFamily),
    ("text_weight", config.textWeight),
    ("text_color", config.textColor),
    ("text_background", config.textBackground),
    ("text_position", config.textPosition),
    ("show_logo", config.showLogo),
    ("logo_file", config.logoFile),
    ("logo_position", config.logoPosition),
    ("animation", config.animation),
    ("video_format", config.videoFormat),
    ("audio_freq", config.audioFreq),
    ("audio_level_db", config.audioLevelDb),
    ("audio_channel_map", config.audioChannelMap),
    ("audio_channel_id_cycle", config.audioChannelIdCycle),
    ("audio_channel_flash", config.audioChannelFlash),
    ("audio_channel_force400", config.audioChannelForce400),
    ("show_clock", config.showClock),
    ("clock_position", config.clockPosition),
    ("clock_latency_ms", config.clockLatencyMs),
    ("show_config_overlay", config.showConfigOverlay),
    ("config_overlay_font_size", config.configOverlayFontSize),
    ("config_overlay_position", config.configOverlayPosition),
    ("flash_overlay_offset", config.flashOverlayOffset),
    ("decklink_device", config.decklinkDevice) ]

/-- The standard signal, with the values of those fields that the entries name. -/
def ofFields (entries : List (String × Value)) : RawConfig :=
  let standard := Config.standard.toRaw
  let field (name : String) (value : Value) : Value :=
    (Value.valueAt? name entries).getD value
  { background := field "background" standard.background
    customBackground := field "custom_background" standard.customBackground
    text := field "text" standard.text
    fontSize := field "font_size" standard.fontSize
    fontFamily := field "font_family" standard.fontFamily
    textWeight := field "text_weight" standard.textWeight
    textColor := field "text_color" standard.textColor
    textBackground := field "text_background" standard.textBackground
    textPosition := field "text_position" standard.textPosition
    showLogo := field "show_logo" standard.showLogo
    logoFile := field "logo_file" standard.logoFile
    logoPosition := field "logo_position" standard.logoPosition
    animation := field "animation" standard.animation
    videoFormat := field "video_format" standard.videoFormat
    audioFreq := field "audio_freq" standard.audioFreq
    audioLevelDb := field "audio_level_db" standard.audioLevelDb
    audioChannelMap := field "audio_channel_map" standard.audioChannelMap
    audioChannelIdCycle := field "audio_channel_id_cycle" standard.audioChannelIdCycle
    audioChannelFlash := field "audio_channel_flash" standard.audioChannelFlash
    audioChannelForce400 := field "audio_channel_force400" standard.audioChannelForce400
    showClock := field "show_clock" standard.showClock
    clockPosition := field "clock_position" standard.clockPosition
    clockLatencyMs := field "clock_latency_ms" standard.clockLatencyMs
    showConfigOverlay := field "show_config_overlay" standard.showConfigOverlay
    configOverlayFontSize := field "config_overlay_font_size" standard.configOverlayFontSize
    configOverlayPosition := field "config_overlay_position" standard.configOverlayPosition
    flashOverlayOffset := field "flash_overlay_offset" standard.flashOverlayOffset
    decklinkDevice := field "decklink_device" standard.decklinkDevice }

end RawConfig

end TestSignal
