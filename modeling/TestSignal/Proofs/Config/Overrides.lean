import TestSignal.Proofs.Config.RoundTrip

namespace TestSignal

namespace Config

/-!
# Values put under a key

A command line puts its own values under some keys of a written configuration.  Reading
finds such a value under the name that the key spells, and everything else as it was.
So the configuration that is read is the written one but for the fields of those names.
-/

/-! ## Entries -/

section Entries

variable {key : String} (value : Value) {entries : List (String × Value)}

theorem spelled_cons (known : String) (old : Value) (rest : List (String × Value)) :
    spelled (.object ((known, old) :: rest)) =
      (Spelling.underscored known, old) :: spelled (.object rest) := rfl

/-- A value that is put under a key leaves what other names stand for alone. -/
theorem valueAt?_insertEntry_of_ne {name : String} (different : Spelling.underscored key ≠ name)
    (entries : List (String × Value)) :
    Value.valueAt? name (spelled (.object (Value.insertEntry key value entries))) =
      Value.valueAt? name (spelled (.object entries)) := by
  induction entries with
  | nil => exact if_neg different
  | cons entry rest inductionHypothesis =>
      rcases entry with ⟨known, old⟩
      unfold Value.insertEntry
      split
      case isTrue same =>
          simp only [spelled_cons, Value.valueAt?, same, if_neg different]
      case isFalse => simp only [spelled_cons, Value.valueAt?, inductionHypothesis]

/-- A value that is put under a key is found under the name that the key spells. -/
theorem valueAt?_insertEntry_self
    (distinct : ((spelled (.object entries)).map Prod.fst).Nodup) :
    Value.valueAt? (Spelling.underscored key)
      (spelled (.object (Value.insertEntry key value entries))) = some value := by
  induction entries with
  | nil => exact if_pos rfl
  | cons entry rest inductionHypothesis =>
      rcases entry with ⟨known, old⟩
      rw [spelled_cons, List.map_cons, List.nodup_cons] at distinct
      unfold Value.insertEntry
      split
      case isTrue same =>
          rw [same] at distinct
          rw [spelled_cons, Value.valueAt?, Value.valueAt?_eq_none distinct.1]
          exact if_pos rfl
      case isFalse =>
          rw [spelled_cons, Value.valueAt?, inductionHypothesis distinct.2]

/-- A value that is put under a known key adds no key. -/
theorem map_fst_insertEntry (known : key ∈ entries.map Prod.fst) :
    (Value.insertEntry key value entries).map Prod.fst = entries.map Prod.fst := by
  induction entries with
  | nil => exact absurd known List.not_mem_nil
  | cons entry rest inductionHypothesis =>
      rcases entry with ⟨first, old⟩
      unfold Value.insertEntry
      split
      case isTrue same => rw [List.map_cons, List.map_cons, same]
      case isFalse different =>
          rw [List.map_cons, List.map_cons]
          rcases List.mem_cons.mp known with same | later
          · exact absurd same.symm different
          · rw [inductionHypothesis later]

end Entries

/-! ## Configurations -/

/-- A written configuration has its keys in the control panel's spelling. -/
theorem map_fst_entries_toValue (config : Config) :
    (config.toValue.entries?.getD []).map Prod.fst = RawConfig.names.map Spelling.capitalized := by
  unfold toValue Value.entries?
  rw [Option.getD_some, ← config.toRaw.map_fst_fields, List.map_map, List.map_map]
  rfl

theorem map_fst_spelled (entries : List (String × Value)) :
    (spelled (.object entries)).map Prod.fst =
      (entries.map Prod.fst).map Spelling.underscored := by
  unfold spelled
  rw [List.map_map, List.map_map]
  rfl

theorem nodup_spelled_toValue (config : Config) :
    ((spelled config.toValue).map Prod.fst).Nodup := by
  rw [spelled_toValue, RawConfig.map_fst_fields]
  exact RawConfig.nodup_names

/--
Entries that differ at most in the names of the format and the device give a
configuration that differs at most in these two fields, which follow their rules from
what is found there.
-/
theorem ReadFrom.override {entries others : List (String × Value)} {config : Config}
    (read : ReadFrom entries config)
    (kept : ∀ name, name ∉ ["video_format", "decklink_device"] →
      Value.valueAt? name others = Value.valueAt? name entries) :
    ReadFrom others
      { config with
        videoFormat := choose Format.ids standard.videoFormat (valueOf others "video_format")
        decklinkDevice := trimmedText? (valueOf others "decklink_device") } := by
  have keptValue : ∀ name, name ∉ ["video_format", "decklink_device"] →
      valueOf others name = valueOf entries name := by
    intro name other
    unfold valueOf
    rw [kept name other]
  constructor
  case video_format => rfl
  case decklink_device => rfl
  all_goals simp (disch := decide) only [keptValue, kept, flashFlags, flashOffset]
  case background => exact read.background
  case custom_background => exact read.custom_background
  case text => exact read.text
  case font_size => exact read.font_size
  case font_family => exact read.font_family
  case text_weight => exact read.text_weight
  case text_color => exact read.text_color
  case text_background => exact read.text_background
  case text_position => exact read.text_position
  case show_logo => exact read.show_logo
  case logo_file => exact read.logo_file
  case logo_position => exact read.logo_position
  case animation => exact read.animation
  case audio_freq => exact read.audio_freq
  case audio_level_db => exact read.audio_level_db
  case audio_channel_map => exact read.audio_channel_map
  case audio_channel_id_cycle => exact read.audio_channel_id_cycle
  case audio_channel_flash => exact read.audio_channel_flash
  case audio_channel_force400 => exact read.audio_channel_force400
  case show_clock => exact read.show_clock
  case clock_position => exact read.clock_position
  case clock_latency_ms => exact read.clock_latency_ms
  case show_config_overlay => exact read.show_config_overlay
  case config_overlay_font_size => exact read.config_overlay_font_size
  case config_overlay_position => exact read.config_overlay_position
  case flash_overlay_offset => exact read.flash_overlay_offset

end Config

end TestSignal
