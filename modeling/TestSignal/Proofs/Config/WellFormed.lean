import TestSignal.Proofs.Config.Fields

namespace TestSignal

namespace Config

/-!
# Checked configurations are well formed

The check of a configuration reads each field from the entries of its data by the
field's rule.  `ReadFrom` lists these rules, and the check succeeds with a
configuration exactly when all of them hold of it.  Nothing that is said about checked
configurations looks into the check beyond this list.

The data is arbitrary: it may have values of any kind under any keys, and keys that
no field has.
-/

/-- The value under a name, or null. -/
def valueOf (entries : List (String × Value)) (name : String) : Value :=
  (Value.valueAt? name entries).getD .null

/-- Every field of a configuration follows its rule from some entries. -/
structure ReadFrom (entries : List (String × Value)) (config : Config) : Prop where
  background : config.background =
    choose Background.ids standard.background (valueOf entries "background")
  custom_background : config.customBackground =
    (valueOf entries "custom_background").nonEmptyString?
  text : config.text = (valueOf entries "text").nonEmptyString?.getD standard.text
  font_size : fontSizeOr standard.fontSize (valueOf entries "font_size") = .ok config.fontSize
  font_family : config.fontFamily =
    choose fontFamilies standard.fontFamily (valueOf entries "font_family")
  text_weight : config.textWeight =
    choose textWeights standard.textWeight (valueOf entries "text_weight")
  text_color : config.textColor = colorOr standard.textColor (valueOf entries "text_color")
  text_background : config.textBackground =
    choose textBackgrounds standard.textBackground (valueOf entries "text_background")
  text_position : config.textPosition =
    anchorOr standard.textPosition (valueOf entries "text_position")
  show_logo : config.showLogo =
    match valueOf entries "show_logo" with
    | .bool false => false
    | _ => true
  logo_file : config.logoFile = (valueOf entries "logo_file").nonEmptyString?
  logo_position : config.logoPosition =
    anchorOr standard.logoPosition (valueOf entries "logo_position")
  animation : config.animation = animationOf (valueOf entries "animation")
  video_format : config.videoFormat =
    choose Format.ids standard.videoFormat (valueOf entries "video_format")
  audio_freq :
    boundedOr Limit.lowestFrequency Limit.highestFrequency standard.audioFreq
      (valueOf entries "audio_freq") = .ok config.audioFreq
  audio_level_db :
    boundedOr Limit.lowestLevel Limit.highestLevel standard.audioLevelDb
      (labelledNumber (valueOf entries "audio_level_db")) = .ok config.audioLevelDb
  audio_channel_map :
    Channels.activeMap (valueOf entries "audio_channel_map")
      ((Value.valueAt? "audio_channels" entries).getD (.int 2)) = .ok config.audioChannelMap
  audio_channel_id_cycle : config.audioChannelIdCycle =
    Channels.flags (valueOf entries "audio_channel_id_cycle")
  audio_channel_flash : config.audioChannelFlash = Channels.flags (flashFlags entries)
  audio_channel_force400 : config.audioChannelForce400 =
    Channels.flags (valueOf entries "audio_channel_force400")
  show_clock : config.showClock = (valueOf entries "show_clock").isOn
  clock_position : config.clockPosition =
    anchorOr standard.clockPosition (valueOf entries "clock_position")
  clock_latency_ms : ∃ latency,
    boundedInteger? 0 Limit.longestLatencyMs (valueOf entries "clock_latency_ms") =
      .ok latency ∧ config.clockLatencyMs = latency.getD standard.clockLatencyMs
  show_config_overlay : config.showConfigOverlay = (valueOf entries "show_config_overlay").isOn
  config_overlay_font_size :
    boundedInteger? Limit.smallestOverlayFont Limit.largestOverlayFont
      (valueOf entries "config_overlay_font_size") = .ok config.configOverlayFontSize
  config_overlay_position : config.configOverlayPosition =
    anchorOr standard.configOverlayPosition (valueOf entries "config_overlay_position")
  flash_overlay_offset : ∃ offset,
    boundedInteger? Limit.lowestFlashOffset Limit.highestFlashOffset (flashOffset entries) =
      .ok offset ∧ config.flashOverlayOffset = offset.getD standard.flashOverlayOffset
  decklink_device : config.decklinkDevice = trimmedText? (valueOf entries "decklink_device")

/-- The check gives a configuration exactly when every field follows its rule. -/
theorem ofValue_ok {data : Value} {config : Config} :
    ofValue data = .ok config ↔ ReadFrom (spelled data) config := by
  constructor
  · intro checked
    rcases Outcome.bind_ok.mp checked with ⟨fontSize, sized, rest⟩
    rcases Outcome.bind_ok.mp rest with ⟨audioFreq, tuned, rest⟩
    rcases Outcome.bind_ok.mp rest with ⟨audioLevelDb, leveled, rest⟩
    rcases Outcome.bind_ok.mp rest with ⟨latency, delayed, rest⟩
    rcases Outcome.bind_ok.mp rest with ⟨overlaySize, drawn, rest⟩
    rcases Outcome.bind_ok.mp rest with ⟨offset, shifted, rest⟩
    rcases Outcome.bind_ok.mp rest with ⟨channelMap, mapped, rest⟩
    have whole := Outcome.pure_ok.mp rest
    subst whole
    exact
      { background := rfl, custom_background := rfl, text := rfl, font_size := sized
        font_family := rfl, text_weight := rfl, text_color := rfl, text_background := rfl
        text_position := rfl, show_logo := rfl, logo_file := rfl, logo_position := rfl
        animation := rfl, video_format := rfl, audio_freq := tuned, audio_level_db := leveled
        audio_channel_map := mapped, audio_channel_id_cycle := rfl, audio_channel_flash := rfl
        audio_channel_force400 := rfl, show_clock := rfl, clock_position := rfl
        clock_latency_ms := ⟨latency, delayed, rfl⟩, show_config_overlay := rfl
        config_overlay_font_size := drawn, config_overlay_position := rfl
        flash_overlay_offset := ⟨offset, shifted, rfl⟩, decklink_device := rfl }
  · intro read
    rcases read.clock_latency_ms with ⟨latency, delayed, latencyIs⟩
    rcases read.flash_overlay_offset with ⟨offset, shifted, offsetIs⟩
    refine Outcome.bind_ok.mpr ⟨config.fontSize, read.font_size, ?_⟩
    refine Outcome.bind_ok.mpr ⟨config.audioFreq, read.audio_freq, ?_⟩
    refine Outcome.bind_ok.mpr ⟨config.audioLevelDb, read.audio_level_db, ?_⟩
    refine Outcome.bind_ok.mpr ⟨latency, delayed, ?_⟩
    refine Outcome.bind_ok.mpr ⟨config.configOverlayFontSize, read.config_overlay_font_size, ?_⟩
    refine Outcome.bind_ok.mpr ⟨offset, shifted, ?_⟩
    refine Outcome.bind_ok.mpr ⟨config.audioChannelMap, read.audio_channel_map, ?_⟩
    refine Outcome.pure_ok.mpr ?_
    cases config
    rw [Config.mk.injEq]
    exact ⟨read.background.symm, read.custom_background.symm, read.text.symm, rfl,
      read.font_family.symm, read.text_weight.symm, read.text_color.symm,
      read.text_background.symm, read.text_position.symm, read.show_logo.symm,
      read.logo_file.symm, read.logo_position.symm, read.animation.symm,
      read.video_format.symm, rfl, rfl, rfl, read.audio_channel_id_cycle.symm,
      read.audio_channel_flash.symm, read.audio_channel_force400.symm, read.show_clock.symm,
      read.clock_position.symm, latencyIs.symm, read.show_config_overlay.symm, rfl,
      read.config_overlay_position.symm, offsetIs.symm, read.decklink_device.symm⟩

/-! ## Well-formed configurations -/

/-- What the compiler relies on about a configuration. -/
structure WellFormed (config : Config) : Prop where
  background : config.background ∈ Background.ids
  video_format : config.videoFormat ∈ Format.ids
  animation : ∀ id ∈ config.animation, id ∈ Animation.all.map Animation.id
  font_family : config.fontFamily ∈ fontFamilies
  text_weight : config.textWeight ∈ textWeights
  text_background : config.textBackground ∈ textBackgrounds
  text : config.text ≠ ""
  font_size_finite : config.fontSize.isFinite = .ok true
  font_size_positive : (0 : Number).lt config.fontSize = true
  text_color : config.textColor ≠ ""
  /-- No blank, quote, backslash, colon, comma, semicolon or bracket. -/
  text_color_plain : ∀ c ∈ config.textColor.toList, Color.isReserved c = false
  positions : ∀ anchor ∈ [config.textPosition, config.logoPosition, config.clockPosition,
    config.configOverlayPosition], anchor ∈ Anchor.all
  audio_freq : (20 : Number).le config.audioFreq = true ∧ config.audioFreq.le 20000 = true
  audio_level_db : (Number.int (-120)).le config.audioLevelDb = true ∧
    config.audioLevelDb.le 12 = true
  channel_lists : ∀ flags ∈ [config.audioChannelMap, config.audioChannelIdCycle,
    config.audioChannelFlash, config.audioChannelForce400], flags.length = 8
  active_channel : true ∈ config.audioChannelMap
  clock_latency_ms : 0 ≤ config.clockLatencyMs ∧ config.clockLatencyMs ≤ 5000
  flash_overlay_offset : -100 ≤ config.flashOverlayOffset ∧ config.flashOverlayOffset ≤ 100
  config_overlay_font_size : ∀ size ∈ config.configOverlayFontSize, 16 ≤ size ∧ size ≤ 160
  custom_background : ∀ name ∈ config.customBackground, name ≠ ""
  logo_file : ∀ name ∈ config.logoFile, name ≠ ""
  decklink_device : ∀ name ∈ config.decklinkDevice, name ≠ "" ∧ Text.trim name = name

theorem ne_empty_of_isEmpty {text : String} (nonempty : text.isEmpty = false) : text ≠ "" := by
  rintro rfl
  exact absurd nonempty (by decide)

/-- The limits and defaults of the numbers are within the limits. -/
theorem bounded_constants :
    (∀ constant ∈ [Limit.lowestFrequency, Limit.highestFrequency, standard.audioFreq],
      Limit.lowestFrequency.le constant = true ∧ constant.le Limit.highestFrequency = true) ∧
      ((Number.int (-120)).same Limit.lowestLevel = true ∧
        (12 : Number).same Limit.highestLevel = true ∧
        ∀ constant ∈ [Limit.lowestLevel, Limit.highestLevel, standard.audioLevelDb],
          Limit.lowestLevel.le constant = true ∧ constant.le Limit.highestLevel = true) ∧
      standard.fontSize.isFinite = .ok true ∧ (0 : Number).lt standard.fontSize = true := by
  decide +kernel

/-- A bounded integer, or a default within the bounds, is within the bounds. -/
theorem boundedInteger?_getD {low high number fallback : Int} {value : Value}
    (ordered : low ≤ fallback ∧ fallback ≤ high)
    (made : ∃ found, boundedInteger? low high value = .ok found ∧ number = found.getD fallback) :
    low ≤ number ∧ number ≤ high := by
  rcases made with ⟨found, bounded, rfl⟩
  cases found with
  | none => exact ordered
  | some rounded =>
      exact boundedInteger?_spec (Int.le_trans ordered.1 ordered.2) bounded

namespace ReadFrom

variable {entries : List (String × Value)} {config : Config}

/-- The colour of a checked configuration is well formed and has no blanks around it. -/
theorem text_color_spec (read : ReadFrom entries config) :
    Color.isWellFormed config.textColor.toList = true ∧
      Text.trim config.textColor = config.textColor := by
  rw [read.text_color]
  exact colorOr_spec (by decide) (by decide) (valueOf entries "text_color")

theorem channel_map_spec (read : ReadFrom entries config) :
    config.audioChannelMap.length = channelSlots ∧ config.audioChannelMap.any id = true :=
  activeMap_spec read.audio_channel_map

theorem channel_lists (read : ReadFrom entries config) :
    ∀ flags ∈ [config.audioChannelMap, config.audioChannelIdCycle, config.audioChannelFlash,
      config.audioChannelForce400], flags.length = channelSlots := by
  rw [read.audio_channel_id_cycle, read.audio_channel_flash, read.audio_channel_force400]
  simp only [List.forall_mem_cons, length_flags, read.channel_map_spec.1, true_and]
  exact fun flags member => absurd member List.not_mem_nil

theorem audio_freq_bounds (read : ReadFrom entries config) :
    (20 : Number).le config.audioFreq = true ∧ config.audioFreq.le 20000 = true :=
  boundedOr_bounds bounded_constants.1 read.audio_freq

theorem audio_level_bounds (read : ReadFrom entries config) :
    (Number.int (-120)).le config.audioLevelDb = true ∧ config.audioLevelDb.le 12 = true := by
  rcases bounded_constants.2.1 with ⟨lowest, highest, bounds⟩
  rw [Number.le_congr_left lowest, Number.le_congr_right highest]
  exact boundedOr_bounds bounds read.audio_level_db

/-- A configuration whose fields follow their rules is well formed. -/
theorem wellFormed (read : ReadFrom entries config) : config.WellFormed := by
  rcases bounded_constants.2.2 with ⟨finite, positive⟩
  have size := fontSizeOr_positive finite positive read.font_size
  have color := Color.all_plain_of_isWellFormed read.text_color_spec.1
  constructor
  case background =>
      rw [read.background]
      exact choose_mem _ _ _ (by decide)
  case video_format =>
      rw [read.video_format]
      exact choose_mem _ _ _ (by decide)
  case animation =>
      intro id chosen
      rw [read.animation] at chosen
      exact animationOf_mem chosen
  case font_family =>
      rw [read.font_family]
      exact choose_mem _ _ _ (by decide)
  case text_weight =>
      rw [read.text_weight]
      exact choose_mem _ _ _ (by decide)
  case text_background =>
      rw [read.text_background]
      exact choose_mem _ _ _ (by decide)
  case text =>
      rw [read.text]
      exact ne_empty_of_isEmpty (textOr_ne (by decide) _)
  case font_size_finite => exact size.1
  case font_size_positive => exact size.2
  case text_color =>
      intro empty
      rw [empty] at color
      exact color.1 rfl
  case text_color_plain =>
      intro c member
      exact Color.isReserved_of_isPlain (color.2 c member)
  case positions => exact fun anchor _ => anchor.mem_all
  case audio_freq => exact read.audio_freq_bounds
  case audio_level_db => exact read.audio_level_bounds
  case channel_lists => exact read.channel_lists
  case active_channel =>
      rcases List.any_eq_true.mp read.channel_map_spec.2 with ⟨flag, member, on⟩
      rw [← show flag = true from on]
      exact member
  case clock_latency_ms => exact boundedInteger?_getD (by decide) read.clock_latency_ms
  case flash_overlay_offset => exact boundedInteger?_getD (by decide) read.flash_overlay_offset
  case config_overlay_font_size =>
      intro size present
      have bounded := read.config_overlay_font_size
      rw [Option.mem_def.mp present] at bounded
      exact boundedInteger?_spec (by decide) bounded
  case custom_background =>
      intro name present
      rw [read.custom_background] at present
      exact ne_empty_of_isEmpty (nonEmptyString?_ne present)
  case logo_file =>
      intro name present
      rw [read.logo_file] at present
      exact ne_empty_of_isEmpty (nonEmptyString?_ne present)
  case decklink_device =>
      intro name present
      rw [read.decklink_device] at present
      rcases trimmedText?_spec present with ⟨nonempty, trimmed⟩
      exact ⟨ne_empty_of_isEmpty nonempty, trimmed⟩

end ReadFrom

/-- Every configuration that the check gives is well formed, whatever data it is given. -/
theorem wellFormed_ofValue {data : Value} {config : Config}
    (checked : ofValue data = .ok config) : config.WellFormed :=
  (ofValue_ok.mp checked).wellFormed

/-- Data in both spellings, with old names, labels and values of the wrong kind. -/
def showcaseData : Value :=
  .object [
    ("textColor", .string " #FFCC00@0.5\n"),
    ("font_size", .number (.float .nan)),
    ("videoFormat", .string "720p50"),
    ("audioLevelDb", .string "-6 dBFS"),
    ("audioFreq", .number 96000),
    ("audioChannelMap", .list [.bool false, .null, .string ""]),
    ("audioChannelIdPop", .list [.bool true, .string "on"]),
    ("popFlashOffset", .string "12.5"),
    ("config_overlay_font_size", .number 4),
    ("textPosition", .list []),
    ("decklinkDevice", .string "  Mini Monitor (1) ") ]

theorem wellFormed_showcase :
    ∃ config, ofValue showcaseData = .ok config ∧ config.WellFormed := by
  have finishes : (ofValue showcaseData).isOk = true := by decide +kernel
  rcases Outcome.exists_ok finishes with ⟨config, checked⟩
  exact ⟨config, checked, wellFormed_ofValue checked⟩

end Config

end TestSignal
