import TestSignal.Clock.Timing
import TestSignal.Format
import TestSignal.Proofs.Clock.Calendar

namespace TestSignal

open Binary64 Outcome

/-!
# The clock can be shown

The lines of the clock are made from a timebase whose numbers are finite.  Every step of
them then succeeds, except that the instant at which the stream starts may have no date.
So the lines can be made exactly when it has one, in universal time and in local time.

An integer is a number of a timebase as well.  One that is finite in binary64 still is when
it is divided, and so is its sum with a latency.
-/

namespace Clock

theorem finiteNumber?_number {x : Number} (finite : x.isFinite = .ok true) :
    finiteNumber? (.number x) = .ok (some x) :=
  bind_ok.mpr ⟨true, finite, rfl⟩

namespace Timing

/-! ## Parts -/

/-- What a timing is put together from. -/
structure Parts where
  latency : Option Number
  offset : Option Number
  uncertainty : Option Number
  utc : Expr
  start : Instant
  zone : LocalZone
  here : Expr
  frames : Field

/-- Each part is made from the reading, and the timing from the parts. -/
structure MadeFrom (parts : Parts) (reading : Reading) (fps latencyMs : Value)
    (timing : Timing) : Prop where
  latency : finiteNumber? latencyMs = .ok parts.latency
  offset : finiteNumber? reading.offsetMs = .ok parts.offset
  uncertainty : finiteNumber? reading.uncertaintyMs = .ok parts.uncertainty
  latencyMs : timing.latencyMs = parts.latency.getD reading.latencyMs
  offsetMs : timing.offsetMs = parts.offset.getD (.float Binary64.zero)
  totalMs : timing.latencyMs.add timing.offsetMs = .ok timing.totalMs
  utc : utcTotal reading.epochMs timing.totalMs = .ok parts.utc
  start : reference reading.epochMs timing.totalMs = .ok parts.start
  zone : localZone parts.start reading.zone = .ok parts.zone
  here : localTotal parts.utc parts.zone.offsetSeconds = .ok parts.here
  frames : frameCounter fps = .ok parts.frames
  syncLine : syncText reading.source timing.offsetMs parts.uncertainty = .ok timing.syncLine
  utcLine : timing.utcLine =
    clockLine ("UTC " ++ parts.start.date.toText) parts.utc parts.frames
  localLine : timing.localLine =
    clockLine (parts.zone.label ++ " " ++ parts.zone.offsetLabel ++ " " ++ parts.zone.date)
      parts.here parts.frames

/-- A timing is made only when each of its parts is. -/
theorem exists_parts {reading : Reading} {fps latencyMs : Value} {timing : Timing}
    (made : ofReading reading fps latencyMs = .ok timing) :
    ∃ parts, MadeFrom parts reading fps latencyMs timing := by
  rcases bind_ok.mp made with ⟨latency, isLatency, made⟩
  rcases bind_ok.mp made with ⟨offset, isOffset, made⟩
  rcases bind_ok.mp made with ⟨totalMs, isTotal, made⟩
  rcases bind_ok.mp made with ⟨utc, isUtc, made⟩
  rcases bind_ok.mp made with ⟨start, isStart, made⟩
  rcases bind_ok.mp made with ⟨zone, isZone, made⟩
  rcases bind_ok.mp made with ⟨here, isHere, made⟩
  rcases bind_ok.mp made with ⟨frames, areFrames, made⟩
  rcases bind_ok.mp made with ⟨uncertainty, isUncertainty, made⟩
  rcases bind_ok.mp made with ⟨sync, isSync, made⟩
  rw [← pure_ok.mp made]
  refine ⟨{ latency, offset, uncertainty, utc, start, zone, here, frames }, ?_⟩
  exact {
    latency := isLatency
    offset := isOffset
    uncertainty := isUncertainty
    latencyMs := rfl
    offsetMs := rfl
    totalMs := isTotal
    utc := isUtc
    start := isStart
    zone := isZone
    here := isHere
    frames := areFrames
    syncLine := isSync
    utcLine := rfl
    localLine := rfl }

/-! ## Seconds and texts -/

/-- An integer of milliseconds may be beyond binary64, when its seconds are not. -/
theorem exists_secondsExpr {millis : Number}
    (small : ∀ whole, millis = .int whole → whole.natAbs ≤ 2 * Number.integerLimit) :
    ∃ seconds, secondsExpr millis = .ok seconds := by
  have limit : 2 * Number.integerLimit * unitsPerOne ≤ greatestUnits * 1000 := by
    decide +kernel
  have fits : ∀ whole, millis = .int whole → whole.natAbs * unitsPerOne ≤ greatestUnits * 1000 := by
    intro whole same
    have scaled := Nat.mul_le_mul_right unitsPerOne (small whole same)
    exact Nat.le_trans scaled limit
  rcases Number.exists_div (by decide) (by decide) fits with ⟨seconds, divided⟩
  exact exists_bind divided ⟨_, rfl⟩

theorem exists_utcTotal {epochMs totalMs : Number}
    (epochSmall : ∀ whole, epochMs = .int whole → whole.natAbs ≤ 2 * Number.integerLimit)
    (totalSmall : ∀ whole, totalMs = .int whole → whole.natAbs ≤ 2 * Number.integerLimit) :
    ∃ utc, utcTotal epochMs totalMs = .ok utc := by
  rcases exists_secondsExpr epochSmall with ⟨epoch, made⟩
  rcases exists_secondsExpr totalSmall with ⟨total, shifted⟩
  exact exists_bind made (exists_bind shifted ⟨_, rfl⟩)

theorem exists_millisText {millis : Number} (finite : millis.isFinite = .ok true) :
    ∃ text, millisText millis = .ok text := by
  rcases Number.exists_finite finite with ⟨value, converted, _⟩
  have fixed : millis.fixedText 1 = .ok (value.fixedText 1) :=
    bind_ok.mpr ⟨value, converted, rfl⟩
  exact exists_bind fixed ⟨_, rfl⟩

theorem exists_syncText (source : String) {offsetMs : Number} {uncertaintyMs : Option Number}
    (finite : offsetMs.isFinite = .ok true)
    (known : ∀ number ∈ uncertaintyMs, number.isFinite = .ok true) :
    ∃ text, syncText source offsetMs uncertaintyMs = .ok text := by
  rcases exists_millisText finite with ⟨offset, shown⟩
  have uncertain : ∃ text, uncertaintyText uncertaintyMs = .ok text := by
    cases uncertaintyMs with
    | none => exact ⟨_, rfl⟩
    | some number =>
        rcases exists_millisText (known number rfl) with ⟨text, shown⟩
        exact exists_bind shown ⟨_, rfl⟩
  rcases uncertain with ⟨text, told⟩
  have signed : ∃ text, offsetText offsetMs = .ok text := exists_bind shown ⟨_, rfl⟩
  rcases signed with ⟨signed, madeSigned⟩
  exact exists_bind madeSigned (exists_bind told ⟨_, rfl⟩)

theorem exists_localTotal (utc : Expr) {offsetSeconds : Int}
    (small : offsetSeconds.natAbs < Number.integerLimit) :
    ∃ total, localTotal utc offsetSeconds = .ok total := by
  rcases Number.toBinary64_int_of_lt small with ⟨offset, converted⟩
  exact exists_bind converted ⟨_, rfl⟩

end Timing

/-! ## The start of the stream -/

/--
The seconds at which a stream starts, as they are computed: the epoch and, together, a
latency and the offset that was measured.
-/
def Timebase.startSeconds (timebase : Timebase) (latencyMs : Number) : Except Fault Binary64 := do
  let totalMs ← latencyMs.add timebase.offsetMs
  let startMs ← timebase.epochMs.add totalMs
  (← startMs.div 1000).toBinary64

/-- The stream starts in the calendar, in universal time and in local time. -/
structure Timebase.StartsAt (timebase : Timebase) (latencyMs : Number) (micros : Int) : Prop where
  counted : ∃ seconds, timebase.startSeconds latencyMs = .ok seconds ∧
    Instant.microsOf? seconds = some micros
  dated : (Instant.mk micros).date.inRange = true
  dated_here : (Instant.mk (micros + timebase.zone.offsetMicros)).date.inRange = true

/-- The numbers of a timebase that the clock shows are finite. -/
structure Timebase.AllFinite (timebase : Timebase) : Prop where
  epoch : timebase.epochMs.isFinite = .ok true
  offset : timebase.offsetMs.isFinite = .ok true
  uncertainty : ∀ number ∈ timebase.uncertaintyMs, number.isFinite = .ok true

theorem exists_frameCounter {format : Format} (known : format ∈ Format.all) :
    ∃ frames, frameCounter (.number format.fps) = .ok frames := by
  have table : ∀ format ∈ Format.all, (frameCounter (.number format.fps)).isOk = true := by
    decide +kernel
  exact exists_ok (table format known)

namespace Timing

/-- The sum of a short latency and a finite offset, when it is an integer. -/
theorem natAbs_total_le {latency : Int} (short : latency.natAbs < 2 ^ 51) {offsetMs total : Number}
    (finite : offsetMs.isFinite = .ok true) (sum : (Number.int latency).add offsetMs = .ok total) :
    ∀ whole, total = .int whole → whole.natAbs ≤ 2 * Number.integerLimit := by
  rintro whole rfl
  cases offsetMs with
  | int offset =>
      have small := Number.natAbs_lt_of_isFinite finite
      have wide := Number.two_pow_lt_integerLimit
      rw [← Number.int.inj (Except.ok.inj sum)]
      omega
  | float x =>
      rcases bind_ok.mp sum with ⟨_, _, rest⟩
      rcases bind_ok.mp rest with ⟨_, _, rest⟩
      cases pure_ok.mp rest

/-- The stream starts at the instant that its epoch, its latency and its offset make. -/
theorem exists_reference {timebase : Timebase} {latencyMs : Number} {micros : Int}
    (starts : timebase.StartsAt latencyMs micros) :
    ∃ totalMs, latencyMs.add timebase.offsetMs = .ok totalMs ∧
      reference timebase.epochMs totalMs = .ok ⟨micros⟩ := by
  rcases starts.counted with ⟨seconds, started, counted⟩
  rcases bind_ok.mp started with ⟨total, summed, rest⟩
  rcases bind_ok.mp rest with ⟨start, shifted, rest⟩
  rcases bind_ok.mp rest with ⟨quotient, divided, converted⟩
  exact ⟨total, summed, bind_ok.mpr ⟨start, shifted, bind_ok.mpr ⟨quotient, divided,
    bind_ok.mpr ⟨seconds, converted, Instant.ofSeconds_of_inRange counted starts.dated⟩⟩⟩⟩

/-- Local time can be shown when the stream starts on a local date of the calendar. -/
theorem exists_localTime {timebase : Timebase} {latencyMs : Number} {micros : Int}
    (starts : timebase.StartsAt latencyMs micros) (utc : Expr) :
    ∃ zone total, localZone ⟨micros⟩ timebase.zone = .ok zone ∧
      localTotal utc zone.offsetSeconds = .ok total := by
  rcases exists_localZone starts.dated starts.dated_here with ⟨zone, shown, sameOffset⟩
  have small : zone.offsetSeconds.natAbs < Number.integerLimit := by
    have size := Zone.natAbs_offsetSeconds_le starts.dated starts.dated_here
    have calendar : 2 * Instant.calendarSeconds < 2 ^ 51 := by decide
    have wide := Number.two_pow_lt_integerLimit
    rw [sameOffset]
    omega
  rcases exists_localTotal utc small with ⟨total, localized⟩
  exact ⟨zone, total, shown, localized⟩

theorem finiteNumber?_uncertaintyMs {timebase : Timebase} (finite : timebase.AllFinite) :
    finiteNumber? timebase.reading.uncertaintyMs = .ok timebase.uncertaintyMs := by
  change finiteNumber? (Timebase.optionalNumber timebase.uncertaintyMs) = _
  cases uncertainty : timebase.uncertaintyMs with
  | none => rfl
  | some number => exact finiteNumber?_number (finite.uncertainty number uncertainty)

/-- The clock of a timebase can be shown when the stream starts in the calendar. -/
theorem exists_ofReading {timebase : Timebase} {latency : Int} {micros : Int}
    (finite : timebase.AllFinite) (short : latency.natAbs < 2 ^ 51)
    (starts : timebase.StartsAt (.int latency) micros) {format : Format}
    (known : format ∈ Format.all) :
    ∃ timing, ofReading timebase.reading (.number format.fps) (.int latency) = .ok timing := by
  have wide := Number.two_pow_lt_integerLimit
  have latencyFinite : finiteNumber? (.int latency) = .ok (some (.int latency)) :=
    finiteNumber?_number (Number.isFinite_int (by omega))
  have epochSmall : ∀ whole, timebase.epochMs = .int whole →
      whole.natAbs ≤ 2 * Number.integerLimit := by
    intro whole same
    have small := Number.natAbs_lt_of_isFinite (same ▸ finite.epoch)
    omega
  rcases exists_reference starts with ⟨total, summed, instant⟩
  rcases exists_utcTotal epochSmall (natAbs_total_le short finite.offset summed) with ⟨utc, timed⟩
  rcases exists_localTime starts utc with ⟨zone, here, shown, localized⟩
  rcases exists_frameCounter known with ⟨frames, numbered⟩
  rcases exists_syncText timebase.source finite.offset finite.uncertainty with ⟨sync, told⟩
  unfold ofReading
  refine exists_bind latencyFinite ?_
  refine exists_bind (finiteNumber?_number finite.offset) ?_
  refine exists_bind summed ?_
  refine exists_bind timed ?_
  refine exists_bind instant ?_
  refine exists_bind shown ?_
  refine exists_bind localized ?_
  refine exists_bind numbered ?_
  refine exists_bind (finiteNumber?_uncertaintyMs finite) ?_
  exact exists_bind told ⟨_, rfl⟩

end Timing

end Clock

end TestSignal
