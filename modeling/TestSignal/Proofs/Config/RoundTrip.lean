import TestSignal.Proofs.Config.Entries

namespace TestSignal

/-!
# Checking is idempotent

The entries of a written configuration are its fields.  Each field's rule leaves its own
results alone, and therefore a checked configuration is given again.  Only numbers may
come back as equal ones of the other kind.
-/

namespace Config

/-! ## Numbers that are read again -/

section Integers

variable {low high : Int} {value : Value}

/-- A bounded integer that is written comes back, and so does a default within the bounds. -/
theorem boundedInteger?_again {fallback number : Int}
    (small : low.natAbs < 2 ^ 51 ∧ high.natAbs < 2 ^ 51)
    (ordered : low ≤ fallback ∧ fallback ≤ high)
    (made : ∃ found, boundedInteger? low high value = .ok found ∧ number = found.getD fallback) :
    ∃ found, boundedInteger? low high (.int number) = .ok found ∧
      number = found.getD fallback := by
  have bounds := boundedInteger?_getD ordered made
  exact ⟨some number, boundedInteger?_int (by omega) bounds.1 bounds.2, rfl⟩

/-- An optional bounded integer that is written comes back. -/
theorem boundedInteger?_optional (small : low.natAbs < 2 ^ 51 ∧ high.natAbs < 2 ^ 51)
    (ordered : low ≤ high) (found : Option Int) :
    boundedInteger? low high value = .ok found →
      boundedInteger? low high
        (match found with
        | some number => .int number
        | none => .null) = .ok found := by
  intro made
  cases found with
  | none => rfl
  | some number =>
      have bounds := boundedInteger?_spec ordered made
      exact boundedInteger?_int (by omega) bounds.1 bounds.2

end Integers

/-! ## The whole configuration -/

/--
The fields of a written configuration follow their rules again, when the numbers that
are read for its three numbers stand in their places.
-/
theorem ReadFrom.toValue {entries : List (String × Value)} {config : Config}
    (read : ReadFrom entries config) {fontSize audioFreq audioLevelDb : Number}
    (sized : fontSizeOr standard.fontSize (.number config.fontSize) = .ok fontSize)
    (tuned : boundedOr Limit.lowestFrequency Limit.highestFrequency standard.audioFreq
      (.number config.audioFreq) = .ok audioFreq)
    (leveled : boundedOr Limit.lowestLevel Limit.highestLevel standard.audioLevelDb
      (.number config.audioLevelDb) = .ok audioLevelDb) :
    ReadFrom (spelled config.toValue) { config with fontSize, audioFreq, audioLevelDb } := by
  have fields := valueOf_toValue config
  simp only [RawConfig.fields, toRaw, List.forall_mem_cons] at fields
  rcases fields with ⟨background, customBackground, text, fontSizeIs, fontFamily, textWeight,
    textColor, textBackground, textPosition, showLogo, logoFile, logoPosition, animation,
    videoFormat, audioFreqIs, audioLevelIs, channelMap, idCycle, _, force400, showClock,
    clockPosition, latency, showOverlay, overlaySize, overlayPosition, _, device, _⟩
  -- Old names are asked for only where the new one is missing, and here both are there.
  have flashFound := valueAt?_toValue config ("audio_channel_flash",
    flagList config.audioChannelFlash) (by simp [RawConfig.fields, toRaw])
  have offsetFound := valueAt?_toValue config ("flash_overlay_offset",
    .int config.flashOverlayOffset) (by simp [RawConfig.fields, toRaw])
  constructor
  case background => rw [background, read.background, choose_choose]
  case custom_background =>
      rw [customBackground, read.custom_background, nonEmptyString?_again]
  case text =>
      rw [text, nonEmptyString?_string]
      · rfl
      · rw [read.text]
        exact textOr_ne (by decide) _
  case font_size =>
      rw [fontSizeIs]
      exact sized
  case font_family => rw [fontFamily, read.font_family, choose_choose]
  case text_weight => rw [textWeight, read.text_weight, choose_choose]
  case text_color =>
      rw [textColor, read.text_color, colorOr_colorOr (by decide) (by decide)]
  case text_background => rw [textBackground, read.text_background, choose_choose]
  case text_position => rw [textPosition, anchorOr_label]
  case show_logo =>
      rw [showLogo]
      cases config.showLogo <;> rfl
  case logo_file => rw [logoFile, read.logo_file, nonEmptyString?_again]
  case logo_position => rw [logoPosition, anchorOr_label]
  case animation => rw [animation, read.animation, animationOf_animationOf]
  case video_format => rw [videoFormat, read.video_format, choose_choose]
  case audio_freq =>
      rw [audioFreqIs]
      exact tuned
  case audio_level_db =>
      rw [audioLevelIs]
      exact leveled
  case audio_channel_map =>
      rw [channelMap]
      exact activeMap_flagList read.channel_map_spec.1 read.channel_map_spec.2 _
  case audio_channel_id_cycle =>
      rw [idCycle, read.audio_channel_id_cycle, flags_flagList (length_flags _ _)]
  case audio_channel_flash =>
      rw [flashFlags, flashFound, read.audio_channel_flash]
      exact (flags_flagList (length_flags _ _) false).symm
  case audio_channel_force400 =>
      rw [force400, read.audio_channel_force400, flags_flagList (length_flags _ _)]
  case show_clock => rw [showClock, Value.isOn]
  case clock_position => rw [clockPosition, anchorOr_label]
  case clock_latency_ms =>
      rw [latency]
      exact boundedInteger?_again (by decide) (by decide) read.clock_latency_ms
  case show_config_overlay => rw [showOverlay, Value.isOn]
  case config_overlay_font_size =>
      rw [overlaySize]
      exact boundedInteger?_optional (by decide) (by decide) _ read.config_overlay_font_size
  case config_overlay_position => rw [overlayPosition, anchorOr_label]
  case flash_overlay_offset =>
      rw [flashOffset, offsetFound]
      exact boundedInteger?_again (by decide) (by decide) read.flash_overlay_offset
  case decklink_device => rw [device, read.decklink_device, trimmedText?_again]

/--
Checking a checked configuration gives it again, up to the kind of its numbers,
whatever the data was that it was checked from.
-/
theorem ofValue_toValue {data : Value} {config : Config} (checked : ofValue data = .ok config) :
    ∃ again, ofValue config.toValue = .ok again ∧ again.agrees config = true := by
  have read := ofValue_ok.mp checked
  rcases fontSizeOr_again (by decide +kernel) read.font_size with ⟨fontSize, sized, sameSize⟩
  rcases boundedOr_again (by decide +kernel) read.audio_freq with ⟨audioFreq, tuned, sameFreq⟩
  rcases boundedOr_again (by decide +kernel) read.audio_level_db
    with ⟨audioLevelDb, leveled, sameLevel⟩
  refine ⟨{ config with fontSize, audioFreq, audioLevelDb }, ?_, ?_⟩
  · exact ofValue_ok.mpr (read.toValue sized tuned leveled)
  · unfold agrees
    rw [sameSize, sameFreq, sameLevel]
    exact decide_eq_true rfl

theorem ofValue_toValue_showcase :
    ∃ config again, ofValue showcaseData = .ok config ∧
      ofValue config.toValue = .ok again ∧ again.agrees config = true := by
  have finishes : (ofValue showcaseData).isOk = true := by decide +kernel
  rcases Outcome.exists_ok finishes with ⟨config, checked⟩
  rcases ofValue_toValue checked with ⟨again, rechecked, agrees⟩
  exact ⟨config, again, checked, rechecked, agrees⟩

end Config

end TestSignal
