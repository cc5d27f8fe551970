import TestSignal.Animation
import TestSignal.Background
import TestSignal.Config.Basic
import TestSignal.Config.Spelling
import TestSignal.Format
import TestSignal.Text.Label

namespace TestSignal

/-!
# Checking a configuration

This is the one place where loosely typed input is checked.  Whatever is unknown
is replaced by a default and numbers are brought within their limits, so the
compiler never meets a malformed value.  The one fault is an integer beyond the
finite binary64 numbers in the place of a number.

Keys are accepted in both spellings.  Two older names are still understood: the
flash flags and the flash offset had other names once, and the old name counts
when the current one is absent.
-/

/-! ## Channel lists -/

namespace Channels

/-- The switches of a list, cut or filled to one per channel slot. -/
def flags (value : Value) (fill : Bool := false) : List Bool :=
  let given :=
    match value with
    | .list items => (items.take channelSlots).map Value.isOn
    | _ => []
  given ++ List.replicate (channelSlots - given.length) fill

/-- The switch of the slot in a place; beyond the end of the list there is none. -/
def flagAt (flags : List Bool) (index : Nat) : Except Fault Bool :=
  match flags[index]? with
  | some flag => .ok flag
  | none => .error .beyondEnd

/-- The first channels on, as many as a number says, within one and all slots. -/
def firstChannels (count : Value) : Except Fault (List Bool) := do
  let number ← count.asNumber
  let wanted : Int := (number.bind Binary64.truncate?).getD 2
  let active := (min (channelSlots : Int) (max 1 wanted)).toNat
  return List.replicate active true ++ List.replicate (channelSlots - active) false

/-- A map with no active channel gets the first pair. -/
def withFirstPair (map : List Bool) : List Bool :=
  if map.any id then map else true :: true :: map.drop 2

/--
The active channels.  Without a list the first `count` channels are active; a
list that activates none activates the first pair.
-/
def activeMap (value count : Value) : Except Fault (List Bool) :=
  match value with
  | .list _ => .ok (withFirstPair (flags value))
  | _ => do
      let map ← firstChannels count
      return withFirstPair map

end Channels

/-! ## Colours -/

namespace Color

def isHex (c : Char) : Bool :=
  ('0' ≤ c && c ≤ '9') || ('a' ≤ c && c ≤ 'f') || ('A' ≤ c && c ≤ 'F')

/-- Six hexadecimal digits, or eight with an opacity. -/
def isHexColor (digits : List Char) : Bool :=
  (digits.length == 6 || digits.length == 8) && digits.all isHex

/-- A colour name, or hexadecimal digits after a mark. -/
def isBase (text : List Char) : Bool :=
  (!text.isEmpty && text.all Char.isAlpha) ||
    (match text with
    | '#' :: digits => isHexColor digits
    | '0' :: 'x' :: digits => isHexColor digits
    | _ => false)

/-- An opacity: a number without sign, or two hexadecimal digits. -/
def isOpacity (text : List Char) : Bool :=
  match text with
  | ['0', 'x', a, b] => isHex a && isHex b
  | _ =>
      let whole := text.takeWhile Text.isDigit
      match text.dropWhile Text.isDigit with
      | [] => !whole.isEmpty
      | '.' :: places =>
          places.all Text.isDigit && (!whole.isEmpty || !places.isEmpty)
      | _ => false

/-- A colour that the engine reads: a base, and an opacity after an at sign. -/
def isWellFormed (text : List Char) : Bool :=
  isBase (text.takeWhile (· != '@')) &&
    (match text.dropWhile (· != '@') with
    | [] => true
    | _ :: opacity => isOpacity opacity)

end Color

namespace Config

/-! ## Single fields -/

/-- A known identifier, or the default. -/
def choose (allowed : List String) (fallback : String) (value : Value) : String :=
  match value with
  | .string id => if id ∈ allowed then id else fallback
  | _ => fallback

def anchorOr (fallback : Anchor) (value : Value) : Anchor :=
  match value with
  | .string label => (Anchor.ofLabel? label).getD fallback
  | _ => fallback

/-- A text with at least one character after trimming. -/
def trimmedText? (value : Value) : Option String :=
  match value with
  | .string text =>
      let trimmed := Text.trim text
      if trimmed.isEmpty then none else some trimmed
  | _ => none

/-- A well-formed colour without blanks around it, or the default. -/
def colorOr (fallback : String) (value : Value) : String :=
  match value with
  | .string text =>
      let trimmed := Text.trim text
      if Color.isWellFormed trimmed.toList then trimmed else fallback
  | _ => fallback

def animationOf (value : Value) : Option String :=
  match value with
  | .string id => (Animation.ofId? id).map Animation.id
  | _ => none

/-- The number in a label, or the value as it is. -/
def labelledNumber (value : Value) : Value :=
  match value with
  | .string text => Value.optionalString (Text.firstNumber? text)
  | other => other

def fontSizeOr (fallback : Number) (value : Value) : Except Fault Number := do
  let number ← value.asNumber
  match number with
  | some size => return if (0 : Number).lt (.float size) then .float size else fallback
  | none => return fallback

/-- A number between two limits, or the default. -/
def boundedOr (low high fallback : Number) (value : Value) : Except Fault Number := do
  let number ← value.asNumber
  match number with
  | some x => return Number.clamp (.float x) low high
  | none => return fallback

/-- A number rounded half up and brought between two limits, if there is one. -/
def boundedInteger? (low high : Int) (value : Value) : Except Fault (Option Int) := do
  let number ← value.asNumber
  match number with
  | some x => do
      let rounded ← Number.roundHalfUp (.float x)
      return some (max low (min high rounded))
  | none => return none

/-! ## The whole configuration -/

/-- The entries of a configuration with their keys in the underscored spelling. -/
def spelled (data : Value) : List (String × Value) :=
  match data with
  | .object entries => entries.map fun (key, value) => (Spelling.underscored key, value)
  | _ => []

/-- The flash flags under their current name, or a list of them under the old one. -/
def flashFlags (entries : List (String × Value)) : Value :=
  match Value.valueAt? "audio_channel_flash" entries with
  | some value => value
  | none =>
      match Value.valueAt? "audio_channel_id_pop" entries with
      | some (.list items) => .list items
      | _ => .null

/-- The flash offset under its current name, or under the old one. -/
def flashOffset (entries : List (String × Value)) : Value :=
  match Value.valueAt? "flash_overlay_offset" entries with
  | some value => value
  | none => (Value.valueAt? "pop_flash_offset" entries).getD .null

/--
The checked configuration of loosely typed data.  Data that is no object gives
the standard configuration.
-/
def ofValue (data : Value) : Except Fault Config := do
  let entries := spelled data
  let field (name : String) : Value := (Value.valueAt? name entries).getD .null
  let fontSize ← fontSizeOr standard.fontSize (field "font_size")
  let audioFreq ←
    boundedOr Limit.lowestFrequency Limit.highestFrequency standard.audioFreq
      (field "audio_freq")
  let audioLevelDb ←
    boundedOr Limit.lowestLevel Limit.highestLevel standard.audioLevelDb
      (labelledNumber (field "audio_level_db"))
  let latency ← boundedInteger? 0 Limit.longestLatencyMs (field "clock_latency_ms")
  let overlaySize ←
    boundedInteger? Limit.smallestOverlayFont Limit.largestOverlayFont
      (field "config_overlay_font_size")
  let offset ←
    boundedInteger? Limit.lowestFlashOffset Limit.highestFlashOffset (flashOffset entries)
  let channelMap ←
    Channels.activeMap (field "audio_channel_map")
      ((Value.valueAt? "audio_channels" entries).getD (.int 2))
  return {
    background := choose Background.ids standard.background (field "background")
    customBackground := (field "custom_background").nonEmptyString?
    text := (field "text").nonEmptyString?.getD standard.text
    fontSize
    fontFamily := choose fontFamilies standard.fontFamily (field "font_family")
    textWeight := choose textWeights standard.textWeight (field "text_weight")
    textColor := colorOr standard.textColor (field "text_color")
    textBackground := choose textBackgrounds standard.textBackground (field "text_background")
    textPosition := anchorOr standard.textPosition (field "text_position")
    showLogo :=
      match field "show_logo" with
      | .bool false => false
      | _ => true
    logoFile := (field "logo_file").nonEmptyString?
    logoPosition := anchorOr standard.logoPosition (field "logo_position")
    animation := animationOf (field "animation")
    videoFormat := choose Format.ids standard.videoFormat (field "video_format")
    audioFreq
    audioLevelDb
    audioChannelMap := channelMap
    audioChannelIdCycle := Channels.flags (field "audio_channel_id_cycle")
    audioChannelFlash := Channels.flags (flashFlags entries)
    audioChannelForce400 := Channels.flags (field "audio_channel_force400")
    showClock := (field "show_clock").isOn
    clockPosition := anchorOr standard.clockPosition (field "clock_position")
    clockLatencyMs := latency.getD standard.clockLatencyMs
    showConfigOverlay := (field "show_config_overlay").isOn
    configOverlayFontSize := overlaySize
    configOverlayPosition :=
      anchorOr standard.configOverlayPosition (field "config_overlay_position")
    flashOverlayOffset := offset.getD standard.flashOverlayOffset
    decklinkDevice := trimmedText? (field "decklink_device") }

/-! ## Writing and reading back -/

/-- The configuration as an object in the control panel's spelling. -/
def toValue (config : Config) : Value :=
  .object (config.toRaw.fields.map fun (name, value) => (Spelling.capitalized name, value))

/-- The configuration that a file's value holds; only an object is one. -/
def ofFileValue (data : Value) : Except Fault Config :=
  match data with
  | .object _ => ofValue data
  | _ => .error .configNotObject

end Config

end TestSignal
