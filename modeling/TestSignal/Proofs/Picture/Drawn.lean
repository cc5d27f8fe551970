import TestSignal.Picture.Graph
import TestSignal.Proofs.Clock.Placement
import TestSignal.Proofs.Clock.Timing
import TestSignal.Proofs.Config.WellFormed
import TestSignal.Proofs.Overlay.Drawn

namespace TestSignal

open Binary64 Outcome

/-!
# Every picture of a checked configuration can be drawn

A well-formed configuration asks for nothing that a step of the picture cannot do.  Each
feature is shown to give its stages, and the graph is made from these.  Two things are
taken from outside: a look for a font file may fail in the ways that are tolerated, and the
clock needs a stream that starts in the calendar.
-/

/-- A font file is there or not, or the system or the path prevents the look. -/
def Host.TellsFiles (host : Host) : Prop :=
  ∀ path fault, host.exists? path = .error fault → fault.family = .system ∨ fault.family = .invalid

/-! ## Fonts -/

namespace Fonts

theorem exists_isInstalled {host : Host} (tells : host.TellsFiles) (path : String) :
    ∃ found after, isInstalled path host = (.ok found, after) ∧ after.exists? = host.exists? := by
  have looked : HostRun.attempt (HostRun.fileExists path) host =
      (.ok (host.exists? path), host) := rfl
  unfold isInstalled
  rw [HostRun.bind_of_ok looked]
  cases outcome : host.exists? path with
  | ok found => exact ⟨found, host, rfl, rfl⟩
  | error fault =>
      have tolerated :
          (decide (fault.family = .system) || decide (fault.family = .invalid)) = true := by
        rw [Bool.or_eq_true, decide_eq_true_iff, decide_eq_true_iff]
        exact tells path fault outcome
      dsimp only
      rw [if_pos tolerated]
      exact ⟨false, _, rfl, rfl⟩

theorem exists_firstInstalled (paths : List String) {host : Host} (tells : host.TellsFiles) :
    ∃ found after, firstInstalled paths host = (.ok found, after) := by
  induction paths generalizing host with
  | nil => exact ⟨none, host, rfl⟩
  | cons path rest inductionHypothesis =>
      rcases exists_isInstalled tells path with ⟨found, after, looked, same⟩
      refine HostRun.exists_bind looked ?_
      cases found with
      | true => exact ⟨some path, after, rfl⟩
      | false =>
          apply inductionHypothesis
          intro path fault outcome
          rw [same] at outcome
          exact tells path fault outcome

theorem exists_resolve (fonts : Fonts) (name : Value) {host : Host} (tells : host.TellsFiles) :
    ∃ font after, fonts.resolve name host = (.ok font, after) := by
  rcases exists_firstInstalled (fonts.family name).candidates tells with ⟨found, after, looked⟩
  refine HostRun.exists_bind looked ?_
  cases found with
  | some path => exact ⟨_, after, rfl⟩
  | none =>
      dsimp only
      cases (fonts.family name).fallbackName.filter fun fallback => !fallback.isEmpty with
      | some fallback => exact ⟨_, after, rfl⟩
      | none => exact ⟨_, after, rfl⟩

end Fonts

/-! ## The clock's lines -/

namespace Clock

theorem exists_filters {format : Format} (known : format ∈ Format.all) (timing : Timing)
    (anchor : Anchor) (font : Font) :
    ∃ drawn, filters timing format anchor font = .ok drawn := by
  have heights : ∀ format ∈ Format.all, format.height.natAbs < 2 ^ 40 := by decide
  rcases exists_filters_stacked (heights format known) timing anchor font with
    ⟨drawn, _, made, _⟩
  exact ⟨drawn, made⟩

end Clock

namespace Picture

/-! ## Features -/

theorem exists_textSize {x : Number} (finite : x.isFinite = .ok true) :
    ∃ size, textSize (.number x) = .ok size ∧ size.isFinite = .ok true := by
  rcases Value.exists_asNumber finite with ⟨value, read, isFinite⟩
  refine ⟨_, bind_ok.mpr ⟨some value, read, rfl⟩, ?_⟩
  split
  case isTrue =>
      exact Number.isFinite_int (Nat.lt_trans (by decide) Number.two_pow_lt_integerLimit)
  case isFalse => exact congrArg Except.ok isFinite

theorem exists_textSteps {config : Config} (formed : config.WellFormed)
    (short : config.text.length < 2 ^ 63) (fonts : Fonts) {host : Host}
    (tells : host.TellsFiles) :
    ∃ steps after, textSteps config.toRaw fonts host = (.ok steps, after) := by
  unfold textSteps
  split
  case isTrue => exact ⟨[], host, rfl⟩
  case isFalse =>
      rcases fonts.exists_resolve config.toRaw.fontFamily tells with ⟨font, after, resolved⟩
      rcases exists_textSize formed.font_size_finite with ⟨size, sized, finite⟩
      rcases Overlay.exists_textFilters short finite font config.toRaw.textColor
        config.textWeight config.textBackground
        (Config.anchorOr .center config.toRaw.textPosition) with ⟨filters, made⟩
      refine HostRun.exists_bind resolved ?_
      refine HostRun.exists_ofExcept ?_
      exact exists_bind sized (exists_bind made ⟨_, rfl⟩)

/-- The square and the pulse are as large as a format asks for. -/
theorem exists_animationSteps {format : Format} (known : format ∈ Format.all)
    (animation : Value) (pad : Option String) :
    ∃ steps, animationSteps animation format pad = .ok steps := by
  have table : ∀ format ∈ Format.all,
      (squarePath format).isOk = true ∧ (pulseX format).isOk = true ∧
      (do Number.roundHalfUp (← (Number.int format.width).mul (Number.decimal 12 3)) :
        Except Fault Int).isOk = true := by
    decide +kernel
  rcases table format known with ⟨square, pulse, width⟩
  rcases exists_ok square with ⟨path, drawn⟩
  rcases exists_ok pulse with ⟨x, moved⟩
  rcases exists_ok width with ⟨pulseWidth, rounded⟩
  unfold animationSteps
  split
  case h_1 _ id pad _ =>
      cases Animation.ofId? id with
      | none => exact ⟨[], rfl⟩
      | some kind =>
          cases kind with
          | square => exact exists_bind drawn ⟨_, rfl⟩
          | staircasePulse =>
              rcases bind_ok.mp rounded with ⟨product, multiplied, rounded⟩
              refine exists_bind multiplied ?_
              refine exists_bind rounded ?_
              exact exists_bind moved ⟨_, rfl⟩
  case h_2 => exact ⟨[], rfl⟩

theorem exists_clockSteps {config : Config} (formed : config.WellFormed)
    {scene : Scene} (known : scene.format ∈ Format.all) {timebase : Clock.Timebase}
    (read : scene.clock = timebase.reading) (finite : timebase.AllFinite)
    (starts : config.showClock = true →
      ∃ micros, timebase.StartsAt (.int config.clockLatencyMs) micros) (fonts : Fonts) :
    ∃ steps, clockSteps config.toRaw scene fonts = .ok steps := by
  unfold clockSteps
  split
  case isTrue => exact ⟨[], rfl⟩
  case isFalse shown =>
      have on : config.showClock = true := by
        change ¬(!config.showClock) = true at shown
        simpa using shown
      rcases starts on with ⟨micros, starts⟩
      have short : config.clockLatencyMs.natAbs < 2 ^ 51 := by
        have bounds := formed.clock_latency_ms
        omega
      rcases Clock.Timing.exists_ofReading finite short starts known with ⟨timing, timed⟩
      rw [← read] at timed
      rcases Clock.exists_filters known timing
        (Config.anchorOr .bottomRight config.toRaw.clockPosition) fonts.default with ⟨filters, made⟩
      exact exists_bind timed (exists_bind made ⟨_, rfl⟩)

theorem sizeWithinLimits {config : Config} (formed : config.WellFormed) :
    Overlay.SizeWithinLimits config.toRaw.configOverlayFontSize := by
  unfold Config.toRaw
  dsimp only
  cases chosen : config.configOverlayFontSize with
  | none => exact ⟨none, rfl, fun x absent => by cases absent⟩
  | some size =>
      have bounds := formed.config_overlay_font_size size chosen
      rcases ofInt?_exact (show size.natAbs < 2 ^ 53 by omega) with ⟨x, converted, _⟩
      refine ⟨some x, bind_ok.mpr ⟨x, Number.toBinary64_int.mpr converted, rfl⟩, ?_⟩
      intro y same
      rw [← Option.mem_some.mp same]
      exact ⟨size, converted, bounds⟩

theorem exists_statusSteps {config : Config} (formed : config.WellFormed) {scene : Scene}
    (known : scene.format ∈ Format.all) (complete : scene.audio.Complete)
    (tuned : scene.audio.frequency.isFinite = .ok true) (fonts : Fonts) :
    ∃ steps, statusSteps config.toRaw scene fonts = .ok steps := by
  unfold statusSteps
  split
  case isTrue => exact ⟨[], rfl⟩
  case isFalse =>
      rcases Value.exists_asNumber_of_le formed.audio_level_db.1 formed.audio_level_db.2
        (show 120 < 2 ^ 53 by decide) (by decide) (by decide) with ⟨level, leveled, within⟩
      have labelled : (Config.labelledNumber config.toRaw.audioLevelDb).asNumber =
          .ok (some level) := leveled
      rcases Overlay.exists_statusLines complete tuned labelled within scene.format.id with
        ⟨lines, written, few⟩
      have limited := sizeWithinLimits formed
      rcases Overlay.exists_statusFilters few limited known
        (Config.anchorOr .topLeft config.toRaw.configOverlayPosition) fonts.default with
        ⟨filters, made⟩
      exact exists_bind written (exists_bind made ⟨_, rfl⟩)

theorem exists_flashSteps {config : Config} (formed : config.WellFormed) {scene : Scene}
    (known : scene.format ∈ Format.all) (fonts : Fonts) :
    ∃ steps, flashSteps config.toRaw scene fonts = .ok steps := by
  unfold flashSteps
  split
  case isTrue => exact ⟨[], rfl⟩
  case isFalse =>
      have small : config.flashOverlayOffset.natAbs ≤ 100 := by
        have bounds := formed.flash_overlay_offset
        omega
      rcases Overlay.exists_flashFilters known small fonts.default with ⟨filters, made⟩
      exact exists_bind made ⟨_, rfl⟩

end Picture

end TestSignal
