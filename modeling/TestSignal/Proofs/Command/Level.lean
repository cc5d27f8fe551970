import TestSignal.Proofs.Command.Gain
import TestSignal.Proofs.Command.Verbatim
import TestSignal.Proofs.Overlay.Level
import TestSignal.Proofs.Overlay.Margins

namespace TestSignal

open Binary64 Config Outcome

/-!
# The level that is shown is the level that is applied

The status block shows the level of a checked configuration, and the volume filter applies it.
Each rounds it in its own way, and they stay within a hundredth of each other.

The sign that is shown belongs to the level in thousandths, but the number is shown in
hundredths.  A level of up to four thousandths is therefore shown as a zero with a sign.
-/

/-- The level of a checked configuration has a value, and not more than the limit. -/
theorem Config.ReadFrom.exists_level {entries : List (String × Value)} {config : Config}
    (read : ReadFrom entries config) :
    ∃ x level, config.audioLevelDb = .float x ∧ x.value? = some level ∧ |level| ≤ 120 := by
  rcases read.level_kept with ⟨x, same, _, _⟩
  have bounds := read.audio_level_bounds
  rw [same] at bounds
  rcases Number.exists_place_of_le bounds.1 bounds.2 with ⟨units, placed, least, most⟩
  have one : (0 : ℚ) < unitsPerOne := Nat.cast_pos.mpr unitsPerOne_pos
  have valued := value?_of_units (Number.place_float_iff.mp placed)
  have low : ((-120 * (unitsPerOne : Int) : Int) : ℚ) ≤ units := Int.cast_le.mpr least
  have high : (units : ℚ) ≤ ((12 * (unitsPerOne : Int) : Int) : ℚ) := Int.cast_le.mpr most
  refine ⟨x, units / unitsPerOne, same, valued, ?_⟩
  rw [Int.cast_mul, Int.cast_natCast] at low high
  rw [abs_le, le_div_iff₀ one, div_le_iff₀ one]
  constructor
  · exact_mod_cast low
  · refine high.trans (mul_le_mul_of_nonneg_right (by norm_num) one.le)

namespace Overlay

/-- Each line of the status block is drawn by a filter. -/
theorem exists_filter_of_line {lines : List String} {format : Format} {setting : Value}
    {anchor : Anchor} {font : Font} {filters : List Filter}
    (made : statusFilters lines format setting anchor font = .ok filters) {line : String}
    (told : line ∈ lines) : ∃ filter ∈ filters, filter.option? "text" = some (.literal line) := by
  rcases (statusFilters_ok (List.ne_nil_of_mem told)).mp made with ⟨layout, _, rfl⟩
  rcases List.mem_iff_getElem?.mp told with ⟨index, placed⟩
  rcases (stackedLines_statusFilter layout (overlayX anchor) font lines).spaced index line placed
    with ⟨filter, drawn, text, _⟩
  exact ⟨filter, List.mem_of_getElem? drawn, text⟩

end Overlay

namespace Command

/-- A command whose sound gets a gain, and whose status block, if there is one, has a line of the
tone with a label. -/
structure ShowsLevel (command : Command) (config : Config) (label : String) (applied : ℚ) :
    Prop where
  gain : ∃ filters, command.valuesOf "-af" = [filters] ∧ gainOfFilters? filters = some applied
  line : config.showConfigOverlay = true →
    ∃ plan channels frequency, soundOf config.toRaw = .ok plan ∧
      Overlay.outputChannels plan = .ok channels ∧
      Number.roundHalfUp plan.frequency = .ok frequency ∧
      ∃ filter ∈ command.graph.drawnBy "overlay", filter.option? "text" =
        some (.literal (Overlay.toneLine channels frequency (some label)))

theorem showsLevel_ofParts {entries : List (String × Value)} {config : Config}
    (read : ReadFrom entries config) {label : String}
    (labelled : Overlay.levelLabel (.number config.audioLevelDb) = .ok (some label)) {applied : ℚ}
    (gained : gainOfFilters? (audioFilters (Audio.levelGain config.audioLevelDb)) = some applied)
    {settings : Settings} {video : VideoInputs} {audio : Audio.Plan} {clock : Clock.Reading}
    {fonts : Fonts} {host after : Host} {graph : FilterGraph}
    (made : video.MadeFrom config.toRaw settings) (sounds : soundOf config.toRaw = .ok audio)
    (built : Picture.graph config.toRaw (sceneOf config.toRaw video audio clock) fonts host =
      (.ok graph, after)) (device : String) :
    (ofParts settings (Format.ofValue config.toRaw.videoFormat) video audio graph
      (Audio.levelGain config.audioLevelDb) device).ShowsLevel config label applied := by
  have known := Format.ofValue_mem_all config.toRaw.videoFormat
  refine ⟨⟨_, made.valuesOf_ofParts known audio graph _ device (by decide), gained⟩, ?_⟩
  intro shown
  rcases status_verbatim read.wellFormed (Picture.drawing_graph built) shown with
    ⟨lines, told, placed, _⟩
  rcases Overlay.statusLines_eq told with
    ⟨channels, heading, frequency, again, output, _, rounded, named, rfl⟩
  cases Except.ok.inj (labelled.symm.trans named)
  exact ⟨audio, channels, frequency, sounds, output, rounded,
    Overlay.exists_filter_of_line placed (List.mem_append_right heading List.mem_cons_self)⟩

/-- The level that the status block shows is within a hundredth of the gain that is applied, for
every checked configuration and every command that is compiled from it.  Its signs are those of
the number that is shown exactly when one to four thousandths are not rounded to zero. -/
theorem level_shown_of_ofValue {data : Value} {config : Config}
    (checked : Config.ofValue data = .ok config) :
    ∃ label shown applied thousandths,
      Overlay.levelLabel (.number config.audioLevelDb) = .ok (some label) ∧
      Overlay.labelValue? label = some shown ∧
      gainOfFilters? (audioFilters (Audio.levelGain config.audioLevelDb)) = some applied ∧
      |shown - applied| < 1 / 100 ∧
      Overlay.levelThousandths config.audioLevelDb = .ok thousandths ∧
      (Overlay.SignedAsShown label shown ↔
        ¬(1 ≤ thousandths.natAbs ∧ thousandths.natAbs ≤ 4)) ∧
      ∀ settings clock fonts devices host command found after,
        compile config.toRaw settings clock fonts devices host = (.ok (command, found), after) →
          command.ShowsLevel config label applied := by
  have read := ofValue_ok.mp checked
  rcases read.exists_level with ⟨x, level, same, valued, small⟩
  rcases Overlay.exists_levelLabel_shown valued small with
    ⟨label, shown, thousandths, labelled, rounded, number, nearShown, signs⟩
  rcases exists_gainOfFilters? valued small with ⟨applied, gained, nearApplied⟩
  rw [← same] at labelled rounded gained
  refine ⟨label, shown, applied, thousandths, labelled, number, gained, ?_, rounded, signs, ?_⟩
  · have shownBounds := abs_le.mp nearShown
    have appliedBounds := abs_le.mp nearApplied
    rw [abs_lt]
    constructor <;> linarith
  · intro settings clock fonts devices host command found after compiled
    rcases compile_ok.mp compiled with
      ⟨video, audio, graph, drawn, gain, device, made, sounds, built, taken, _, rfl⟩
    rw [Except.ok.inj (taken.symm.trans read.gainOf)]
    exact showsLevel_ofParts read labelled gained made sounds built device

/-- A level of hundredths, and a status block that shows it. -/
def dimmedData : Value :=
  .object [("audioLevelDb", .string "-12.25 dB"), ("showConfigOverlay", .bool true)]

theorem level_shown_of_ofValue_showcase :
    ∃ config, Config.ofValue dimmedData = .ok config ∧
      ∃ label shown applied, |shown - applied| < 1 / 100 ∧
        Overlay.SignedAsShown label shown ∧
        ∃ command found after,
          compile config.toRaw showcaseSettings Picture.showcaseClock
            (Fonts.standard "/mono.ttf") {} Host.idle = (.ok (command, found), after) ∧
          command.ShowsLevel config label applied := by
  have finishes : (Config.ofValue dimmedData).toOption.any (fun config =>
      (Overlay.levelThousandths config.audioLevelDb).toOption.any (5 ≤ ·.natAbs) &&
      (compile config.toRaw showcaseSettings Picture.showcaseClock
        (Fonts.standard "/mono.ttf") {} Host.idle).1.isOk) = true := by decide +kernel
  rcases any_ok.mp finishes with ⟨config, checked, finishes⟩
  rw [Bool.and_eq_true] at finishes
  rcases HostRun.exists_ok finishes.2 with ⟨⟨command, found⟩, after, compiled⟩
  rcases any_ok.mp finishes.1 with ⟨counted, rounded, many⟩
  rcases level_shown_of_ofValue checked with
    ⟨label, shown, applied, thousandths, _, _, _, near, again, signs, shows⟩
  cases Except.ok.inj (rounded.symm.trans again)
  have least := of_decide_eq_true many
  exact ⟨config, checked, label, shown, applied, near, signs.mpr (by omega), command, found, after,
    compiled, shows _ _ _ _ _ _ _ _ compiled⟩

/-- A level of four thousandths. -/
def faintData : Value := .object [("audioLevelDb", .number (Number.decimal 4 3))]

/-- The zero that is shown for four thousandths has a sign. -/
theorem levelLabel_of_faint :
    ∃ config, Config.ofValue faintData = .ok config ∧
      Overlay.levelLabel (.number config.audioLevelDb) = .ok (some "+0 dBFS") ∧
      Overlay.labelValue? "+0 dBFS" = some 0 ∧ ¬Overlay.SignedAsShown "+0 dBFS" 0 := by
  have labelled : (Config.ofValue faintData).toOption.any (fun config =>
      (Overlay.levelLabel (.number config.audioLevelDb)).toOption.any (· = some "+0 dBFS")) =
        true := by
    decide +kernel
  rcases any_ok.mp labelled with ⟨config, checked, labelled⟩
  rcases any_ok.mp labelled with ⟨label, made, same⟩
  rw [of_decide_eq_true same] at made
  refine ⟨config, checked, made, by decide +kernel, fun signs => ?_⟩
  exact absurd (signs.zero rfl) (by decide)

end Command

end TestSignal
