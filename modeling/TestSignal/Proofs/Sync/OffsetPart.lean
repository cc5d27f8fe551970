import TestSignal.Proofs.Clock.OffsetPart
import TestSignal.Proofs.Clock.Unusable
import TestSignal.Proofs.Sync.Rounds

namespace TestSignal

namespace Sync

open Clock (Timebase Timing)

/-!
# The offset that a synchronisation shows

The offset goes from the output of the client to the clock's first line.  It is read as seconds,
counted in milliseconds, kept by the timebase if it is finite, and shown with its sign.  The
count keeps the sign, and is the negative zero only of the negative zero.  So a finite offset is
shown with exactly one sign unless the client gives the negative zero, which is shown with two.

An offset of so many digits that its milliseconds are infinite is not kept.  The line then shows
the offset that the timebase had before.
-/

/-! ## What is measured -/

theorem step_of_onTimebase {step : Timebase.Step} {timebase written : Timebase}
    {host after : Host} {outcome : Except Fault Unit}
    (done : Run.onTimebase step (timebase, host) = (outcome, (written, after))) :
    step timebase = (outcome, written) := by
  have parts : Run.onTimebase step (timebase, host) =
      ((step timebase).1, ((step timebase).2, host)) := rfl
  rw [parts] at done
  cases done
  rfl

theorem timebase_of_onHost {run : HostRun α} {timebase written : Timebase} {host after : Host}
    {outcome : Except Fault α}
    (done : Run.onHost run (timebase, host) = (outcome, (written, after))) :
    written = timebase := by
  have parts : Run.onHost run (timebase, host) =
      ((run host).1, (timebase, (run host).2)) := rfl
  rw [parts] at done
  cases done
  rfl

/-- A measurement that is returned was replied by a server, and the timebase took it. -/
theorem update_of_refreshFrom {clientPath : String} {servers : List String}
    {timebase after : Timebase} {host left : Host} {measurement : Sntp.Measurement}
    (refreshed : refreshFrom clientPath servers (timebase, host) =
      (.ok (some measurement), (after, left))) :
    ∃ server ∈ servers, ∃ between asked,
      reply clientPath server between = (.ok (some measurement), asked) ∧
        Timebase.update (measuredUpdate measurement) measurement.timestampMs timebase =
          (.ok (), after) := by
  rcases Round.exists_decision clientPath servers host with
    ⟨passed, server, rest, between, rfl, passes, decides⟩ | ⟨between, passes⟩
  · rcases replied : reply clientPath server between with ⟨outcome, asked⟩
    rw [refreshFrom_of_passesOver passes] at refreshed
    rw [replied] at decides
    rcases Round.decides_or_passedOver outcome with isPassed | ⟨given, rfl⟩ | ⟨fault, rfl, grave⟩
    · exact absurd isPassed decides
    · rw [refreshFrom, Outcome.bind_of_run_ok (ask_of_reply replied timebase)] at refreshed
      rcases Outcome.bind_run_ok.mp refreshed with ⟨_, _, applied, returned⟩
      cases returned
      rcases Outcome.bind_run_ok.mp applied with ⟨_, ⟨written, _⟩, updated, logged⟩
      rw [timebase_of_onHost logged]
      exact ⟨server, List.mem_append_right passed List.mem_cons_self, between, asked, replied,
        step_of_onTimebase updated⟩
    · rw [refreshFrom_of_raised replied grave] at refreshed
      cases refreshed
  · have ranOut := refreshFrom_of_passesOver passes [] timebase
    rw [List.append_nil] at ranOut
    rw [ranOut] at refreshed
    rcases Outcome.bind_run_ok.mp refreshed with ⟨_, _, _, returned⟩
    cases returned

/-- Milliseconds are the negative zero only when the seconds are. -/
theorem millis_eq_negativeZero_iff (seconds : Binary64) :
    Sntp.millis seconds = Number.negativeZero ↔ seconds = Binary64.negativeZero := by
  have thousand : (Binary64.ofDecimal false 1000 0).units? =
      some ((1000 * unitsPerOne : Nat) : Int) := by decide +kernel
  unfold Sntp.millis Number.negativeZero
  rw [Number.float.injEq]
  exact Binary64.mul_eq_negativeZero_iff (by decide) thousand seconds

/-- The offset that is measured is kept if it is finite. -/
theorem offsetMs_of_update {measurement : Sntp.Measurement} {nowMs : Number}
    {timebase after : Timebase}
    (written : Timebase.update (measuredUpdate measurement) nowMs timebase = (.ok (), after)) :
    after.offsetMs =
      (Clock.usableNumber? (.number measurement.offsetMs)).getD timebase.offsetMs := by
  rw [Timebase.eq_effects_of_update written]
  rfl

/-! ## What is shown -/

/-- The offset that a timebase shows: its own if that is finite, and otherwise zero. -/
def shownOffset (timebase : Timebase) : Number :=
  (Clock.usableNumber? (.number timebase.offsetMs)).getD (.float Binary64.zero)

theorem isFinite_shownOffset (timebase : Timebase) :
    (shownOffset timebase).isFinite = .ok true := by
  unfold shownOffset
  cases usable : Clock.usableNumber? (.number timebase.offsetMs) with
  | none => rfl
  | some offset =>
      rcases Clock.usableNumber?_number_iff.mp usable with ⟨rfl, finite⟩
      exact finite

/-- The part of the synchronisation line that tells the offset. -/
def HasOffsetPart (timing : Timing) (part : String) : Prop :=
  Timing.offsetText timing.offsetMs = .ok part ∧
    ∃ source uncertainty,
      timing.syncLine = "SNTP " ++ source ++ " offset " ++ part ++ uncertainty

/-- A timing shows the offset of its timebase in a part of its synchronisation line. -/
theorem shows_of_ofReading {timebase : Timebase} {fps latencyMs : Value} {timing : Timing}
    (timed : Timing.ofReading timebase.reading fps latencyMs = .ok timing) :
    timing.offsetMs = shownOffset timebase ∧ ∃ part, HasOffsetPart timing part := by
  rcases Timing.exists_parts timed with ⟨parts, made⟩
  have judged : Clock.finiteNumber? (.number timebase.offsetMs) = .ok parts.offset := made.offset
  constructor
  · cases large : Clock.isTooLarge (.number timebase.offsetMs) with
    | true =>
        rw [Clock.finiteNumber?_of_isTooLarge large] at judged
        cases judged
    | false =>
        rw [Clock.finiteNumber?_of_not_isTooLarge large] at judged
        rw [made.offsetMs, ← Except.ok.inj judged]
        rfl
  · rcases Outcome.bind_ok.mp made.syncLine with ⟨part, written, rest⟩
    rcases Outcome.bind_ok.mp rest with ⟨uncertainty, _, joined⟩
    exact ⟨part, written, _, uncertainty, (Outcome.pure_ok.mp joined).symm⟩

/--
The offset part of the synchronisation line after a measurement was applied.  It has exactly one
sign unless the offset is the negative zero.  The offset is what the client gave if that is
finite, and then it is the negative zero when the client gave that; what is not finite is not
kept, and the offset is the one that the timebase had before.
-/
theorem isSignedMillis_of_refresh {settings : Settings} {timebase after : Timebase}
    {host left : Host} {measurement : Sntp.Measurement} {fps latencyMs : Value} {timing : Timing}
    (refreshed : refresh settings (timebase, host) = (.ok (some measurement), (after, left)))
    (timed : Timing.ofReading after.reading fps latencyMs = .ok timing) :
    ∃ output seconds dispersion part,
      (∃ server ∈ settings.sntpServers, ∃ before asked,
        HostRun.start [settings.sntpPath, server] Sntp.querySeconds before =
          (.ok (0, output), asked)) ∧
        Sntp.readOutput? output = some (seconds, dispersion) ∧
        HasOffsetPart timing part ∧
        (Timing.IsSignedMillis part ↔ timing.offsetMs ≠ Number.negativeZero) ∧
        ((Sntp.millis seconds).isFinite = .ok true →
          timing.offsetMs = Sntp.millis seconds ∧
            (timing.offsetMs = Number.negativeZero ↔ seconds = Binary64.negativeZero)) ∧
        ((Sntp.millis seconds).isFinite ≠ .ok true →
          timing.offsetMs = shownOffset timebase) := by
  rcases update_of_refreshFrom refreshed with ⟨server, listed, between, asked, replied, written⟩
  rcases exists_of_reply replied with
    ⟨nowMs, before, output, seconds, dispersion, started, parsed, measured⟩
  rcases shows_of_ofReading timed with ⟨shown, part, hasPart⟩
  have kept := offsetMs_of_update written
  rw [measured] at kept
  have signed := Timing.isSignedMillis_iff (shown ▸ isFinite_shownOffset after) hasPart.1
  refine ⟨output, seconds, dispersion, part, ⟨server, listed, before, asked, started⟩, parsed,
    hasPart, signed, ?_, ?_⟩
  · intro finite
    have usable := Clock.usableNumber?_number_iff.mpr ⟨rfl, finite⟩
    have same : timing.offsetMs = Sntp.millis seconds := by
      rw [usable, Option.getD_some] at kept
      rw [shown, shownOffset, kept, usable, Option.getD_some]
    rw [same, millis_eq_negativeZero_iff]
    exact ⟨rfl, Iff.rfl⟩
  · intro infinite
    have unusable : Clock.usableNumber? (.number (Sntp.millis seconds)) = none := by
      rw [Option.eq_none_iff_forall_ne_some]
      intro offset usable
      exact infinite (Clock.usableNumber?_number_iff.mp usable).2
    rw [unusable, Option.getD_none] at kept
    rw [shown, shownOffset, kept]
    rfl

/-! ## One server that answers -/

/-- A synchronisation with one server, which answers so. -/
def refreshBy (answer : String) : Outcome × Timebase × Host :=
  refresh showcaseSettings ({ epochMs := 0 }, { Host.idle with programs := [.exited 0 answer] })

/-- Whether the answer is usable and the timing of the clock then passes a test. -/
def shows (answer : String) (test : Timing → Bool) : Bool :=
  (refreshBy answer).1.toOption.any Option.isSome &&
    (Timing.ofReading (refreshBy answer).2.1.reading (.number 25) .null).toOption.any test

theorem exists_of_shows {answer : String} {test : Timing → Bool}
    (shown : shows answer test = true) :
    ∃ measurement after left timing,
      refreshBy answer = (.ok (some measurement), (after, left)) ∧
        Timing.ofReading after.reading (.number 25) .null = .ok timing ∧ test timing = true := by
  unfold shows at shown
  rcases refreshed : refreshBy answer with ⟨outcome, after, left⟩
  rw [refreshed, Bool.and_eq_true] at shown
  rcases Outcome.any_ok.mp shown.1 with ⟨answered, rfl, present⟩
  rcases Option.isSome_iff_exists.mp present with ⟨measurement, rfl⟩
  rcases Outcome.any_ok.mp shown.2 with ⟨timing, timed, passed⟩
  exact ⟨measurement, after, left, timing, rfl, timed, passed⟩

theorem isSignedMillis_of_refresh_showcase :
    ∃ measurement after left timing part,
      refreshBy "+0.025 +/- 0.010 time.example" = (.ok (some measurement), (after, left)) ∧
        Timing.ofReading after.reading (.number 25) .null = .ok timing ∧
        HasOffsetPart timing part ∧ Timing.IsSignedMillis part := by
  have known : shows "+0.025 +/- 0.010 time.example" fun timing =>
      decide (timing.offsetMs ≠ Number.negativeZero) := by decide +kernel
  rcases exists_of_shows known with ⟨measurement, after, left, timing, refreshed, timed, nonzero⟩
  rcases isSignedMillis_of_refresh refreshed timed with ⟨_, _, _, part, _, _, hasPart, signed, _⟩
  exact ⟨measurement, after, left, timing, part, refreshed, timed, hasPart,
    signed.mpr (of_decide_eq_true nonzero)⟩

/-- The negative zero is shown with two signs. -/
theorem hasOffsetPart_of_negativeZero :
    ∃ measurement after left timing,
      refreshBy "-0.000000 +/- 0.025000 time.example" =
          (.ok (some measurement), (after, left)) ∧
        Timing.ofReading after.reading (.number 25) .null = .ok timing ∧
        timing.syncLine = "SNTP time.example offset +-0.0ms +/-25.0ms" ∧
        HasOffsetPart timing "+-0.0ms" ∧ ¬Timing.IsSignedMillis "+-0.0ms" := by
  have known : shows "-0.000000 +/- 0.025000 time.example" fun timing =>
      decide (Timing.offsetText timing.offsetMs = .ok "+-0.0ms") &&
        decide (timing.syncLine = "SNTP time.example offset +-0.0ms +/-25.0ms") := by
    decide +kernel
  rcases exists_of_shows known with ⟨measurement, after, left, timing, refreshed, timed, told⟩
  rw [Bool.and_eq_true, decide_eq_true_iff, decide_eq_true_iff] at told
  refine ⟨measurement, after, left, timing, refreshed, timed, told.2,
    ⟨told.1, "time.example", " +/-25.0ms", told.2⟩, ?_⟩
  rintro ⟨sign, size, -, millis, same⟩
  rw [show "+-0.0ms".toList = ['+', '-', '0', '.', '0', 'm', 's'] by decide] at same
  cases same
  exact absurd millis.isDigit_head (by decide)

end Sync

end TestSignal
