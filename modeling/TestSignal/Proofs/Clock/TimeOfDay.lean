import TestSignal.Proofs.Clock.Line
import TestSignal.Proofs.Clock.Timing
import TestSignal.Proofs.Number.Finite

namespace TestSignal

/-!
# The time of day on the clock

A line of the clock shows fields that the engine computes from one total of seconds.  The
total is a sum of decimals and the stream time; read exactly, it is a rational number, before
1970 a negative one.  Its fields then are the hours, minutes and seconds of the day that the
total falls into, and its milliseconds.  The fields and the total are read from the line.

The total has a value because the stream starts at an instant: what makes the instant is
finite, so it is written as decimals.  The offset of local time is an integer of seconds, so
the two lines show the same fraction of a second.
-/

open Binary64 Outcome

namespace Clock

/-! ## The fields of a total -/

/-- The stream time is the only variable that has a value. -/
def atTime (t : ℚ) (name : String) : Option ℚ := if name = "t" then some t else none

/-- A time of day, as the clock shows it. -/
structure DayTime where
  hours : Int
  minutes : Int
  seconds : Int
  millis : Int

namespace DayTime

structure InRange (time : DayTime) : Prop where
  hours : 0 ≤ time.hours ∧ time.hours ≤ 23
  minutes : 0 ≤ time.minutes ∧ time.minutes ≤ 59
  seconds : 0 ≤ time.seconds ∧ time.seconds ≤ 59
  millis : 0 ≤ time.millis ∧ time.millis ≤ 999

def secondsOfDay (time : DayTime) : Int := time.hours * 3600 + time.minutes * 60 + time.seconds

end DayTime

/-- The expression of a field has an integer as its value at a stream time. -/
def TemplateField.Reads (field : TemplateField) (t : ℚ) (value : Int) : Prop :=
  Expr.textValue? (atTime t) field.expression = some (value : ℚ)

namespace WrittenTime

/-- The total that a time is split off from: what the seconds are rounded down from. -/
def total? (written : WrittenTime) : Option Expr :=
  match Expr.read? written.seconds.expression with
  | some (.sub (.call .floor total) _) => some total
  | _ => none

/-- The widths of the fields: two digits for each, and three for the milliseconds. -/
structure IsPadded (written : WrittenTime) : Prop where
  hours : written.hours.width = 2
  minutes : written.minutes.width = 2
  seconds : written.seconds.width = 2
  frames : written.frames.width = 2
  millis : written.millis.width = 3

/-- What the engine makes of a line at a stream time: the total has a count of seconds as its
value, and the fields have the time of day within that count. -/
structure Tells (written : WrittenTime) (t seconds : ℚ) (time : DayTime) : Prop where
  total_eq : (written.total?.bind fun total => total.value? (atTime t)) = some seconds
  hours_reads : written.hours.Reads t time.hours
  minutes_reads : written.minutes.Reads t time.minutes
  seconds_reads : written.seconds.Reads t time.seconds
  millis_reads : written.millis.Reads t time.millis
  inRange : time.InRange
  secondsOfDay_eq : time.secondsOfDay = ⌊seconds⌋ % 86400
  millis_eq : time.millis = ⌊1000 * (seconds - ⌊seconds⌋)⌋

end WrittenTime

/-- The time of day within a count of seconds, as the fields split it off. -/
def DayTime.ofSeconds (seconds : ℚ) : DayTime where
  hours := ⌊seconds⌋ / 3600 - 24 * (⌊seconds⌋ / 86400)
  minutes := ⌊seconds⌋ / 60 - 60 * (⌊seconds⌋ / 3600)
  seconds := ⌊seconds⌋ - 60 * (⌊seconds⌋ / 60)
  millis := ⌊1000 * (seconds - ⌊seconds⌋)⌋

namespace DayTime

theorem inRange_ofSeconds (seconds : ℚ) : (ofSeconds seconds).InRange where
  hours := by
    unfold ofSeconds
    dsimp only
    omega
  minutes := by
    unfold ofSeconds
    dsimp only
    omega
  seconds := by
    unfold ofSeconds
    dsimp only
    omega
  millis := by
    have below := Int.floor_le seconds
    have above := Int.lt_floor_add_one seconds
    have nonneg : (0 : ℚ) ≤ 1000 * (seconds - ⌊seconds⌋) := by linarith
    have small : 1000 * (seconds - ⌊seconds⌋) < ((1000 : Int) : ℚ) := by
      push_cast
      linarith
    have upper := Int.floor_lt.mpr small
    exact ⟨Int.floor_nonneg.mpr nonneg, Int.le_of_lt_add_one upper⟩

theorem secondsOfDay_ofSeconds (seconds : ℚ) :
    (ofSeconds seconds).secondsOfDay = ⌊seconds⌋ % 86400 := by
  unfold secondsOfDay ofSeconds
  dsimp only
  omega

/-- Whole seconds later it is another time of day, with the same milliseconds. -/
theorem secondsOfDay_ofSeconds_add (seconds : ℚ) (offset : Int) :
    (ofSeconds (seconds + offset)).secondsOfDay =
      ((ofSeconds seconds).secondsOfDay + offset) % 86400 := by
  rw [secondsOfDay_ofSeconds, secondsOfDay_ofSeconds, Int.floor_add_intCast, Int.emod_add_emod]

theorem millis_ofSeconds_add (seconds : ℚ) (offset : Int) :
    (ofSeconds (seconds + offset)).millis = (ofSeconds seconds).millis := by
  unfold ofSeconds
  rw [Int.floor_add_intCast, Int.cast_add, add_sub_add_right_eq_sub]

end DayTime

namespace TimeOfDay

section Values

variable {assign : String → Option ℚ} {total : Expr} {seconds : ℚ}
  (evaluated : total.value? assign = some seconds)
include evaluated

theorem value?_wholeUnits (unit : Nat) (positive : 0 < unit) :
    (wholeUnits total unit).value? assign = some ((⌊seconds⌋ / unit : Int) : ℚ) := by
  have nonzero : ((unit : Int) : ℚ) ≠ 0 := by exact_mod_cast Nat.ne_of_gt positive
  have quotient := Expr.value?_div evaluated (Expr.value?_integer unit) nonzero
  rw [wholeUnits, Expr.value?_floor quotient, Int.cast_natCast, Int.floor_div_natCast]

/-- What is left of smaller units when the whole greater ones are taken off. -/
theorem value?_sub_wholeUnits {smaller : Expr} {count : Int}
    (counted : smaller.value? assign = some (count : ℚ)) (factor : Int) (unit : Nat)
    (positive : 0 < unit) :
    (Expr.sub smaller (.mul (.integer factor) (wholeUnits total unit))).value? assign =
      some ((count - factor * (⌊seconds⌋ / unit) : Int) : ℚ) := by
  have whole := Expr.value?_mul (Expr.value?_integer factor)
    (value?_wholeUnits evaluated unit positive)
  rw [Expr.value?_sub counted whole, Int.cast_sub, Int.cast_mul]

theorem value?_millis : (ofTotal total).millis.expr.value? assign =
    some ((⌊1000 * (seconds - ⌊seconds⌋)⌋ : Int) : ℚ) := by
  have remainder := Expr.value?_remainder evaluated (Expr.value?_integer 1) (by norm_num)
  rw [Int.cast_one, div_one, one_mul] at remainder
  have thousandths := Expr.value?_mul (Expr.value?_integer 1000) remainder
  exact (Expr.value?_floor thousandths).trans (by norm_num)

end Values

/-- The fields of a total that can be read can be read. -/
theorem readable_ofTotal {total : Expr} (readable : total.Readable) (closed : 2 ≤ total.binding) :
    (ofTotal total).hours.expr.Readable ∧ (ofTotal total).minutes.expr.Readable ∧
      (ofTotal total).seconds.expr.Readable ∧ (ofTotal total).millis.expr.Readable := by
  have units (unit : Int) : (wholeUnits total unit).Readable :=
    ⟨readable, trivial, Nat.le_trans (by decide) closed, Nat.le_refl 2⟩
  have taken (smaller : Expr) (whole : smaller.Readable) (factor unit : Int) :
      (Expr.sub smaller (.mul (.integer factor) (wholeUnits total unit))).Readable :=
    ⟨whole, ⟨trivial, units unit, Nat.le_succ 1, Nat.le_refl 2⟩, Nat.le_refl 1⟩
  refine ⟨taken _ (units 3600) 24 86400, taken _ (units 60) 60 3600, taken _ readable 60 60, ?_⟩
  exact ⟨trivial, ⟨readable, trivial⟩, by decide, Nat.le_refl 2⟩

end TimeOfDay

/-- A line with the fields of a total in brackets is read as what tells the time of day within
the total's value. -/
theorem tells_of_value {t seconds : ℚ} {total : Expr} (readable : total.Readable)
    (closed : 2 ≤ total.binding) (evaluated : total.value? (atTime t) = some seconds)
    (title : String) (frames : Field) :
    (WrittenTime.ofTotal title total frames).Tells t seconds (.ofSeconds seconds) := by
  rcases TimeOfDay.readable_ofTotal readable closed with ⟨hours, minutes, secondsField, millis⟩
  constructor
  case total_eq =>
      have found : (WrittenTime.ofTotal title total frames).total? = some total := by
        change (match Expr.read? (TimeOfDay.ofTotal total).seconds.expr.text with
          | some (.sub (.call .floor total) _) => some total
          | _ => none) = some total
        rw [Expr.read?_text secondsField]
        rfl
      rw [found, Option.bind_some, evaluated]
  case hours_reads =>
      have counted := TimeOfDay.value?_wholeUnits evaluated 3600 (by decide)
      have value := TimeOfDay.value?_sub_wholeUnits evaluated counted 24 86400 (by decide)
      exact (Expr.textValue?_text hours _).trans value
  case minutes_reads =>
      have counted := TimeOfDay.value?_wholeUnits evaluated 60 (by decide)
      have value := TimeOfDay.value?_sub_wholeUnits evaluated counted 60 3600 (by decide)
      exact (Expr.textValue?_text minutes _).trans value
  case seconds_reads =>
      have value := TimeOfDay.value?_sub_wholeUnits evaluated (Expr.value?_floor evaluated) 60
        60 (by decide)
      exact (Expr.textValue?_text secondsField _).trans value
  case millis_reads =>
      exact (Expr.textValue?_text millis _).trans (TimeOfDay.value?_millis evaluated)
  case inRange => exact DayTime.inRange_ofSeconds seconds
  case secondsOfDay_eq => exact DayTime.secondsOfDay_ofSeconds seconds
  case millis_eq => rfl

/-- The line itself is read so when the number of the frame is one of its rate. -/
theorem reads_clockLine {fps : Value} {frames : Field} (counted : frameCounter fps = .ok frames)
    {total : Expr} (readable : total.Readable) (closed : 2 ≤ total.binding) (title : String) :
    WrittenTime.read? (Timing.clockLine title total frames) =
        some (.ofTotal title total frames) ∧
      (WrittenTime.ofTotal title total frames).IsPadded := by
  rcases TimeOfDay.readable_ofTotal readable closed with ⟨hours, minutes, seconds, millis⟩
  have two : 2 < 10 := by decide
  have three : 3 < 10 := by decide
  have separable : (TimeOfDay.ofTotal total).Separable := {
    hours := Field.separable_of_readable hours two
    minutes := Field.separable_of_readable minutes two
    seconds := Field.separable_of_readable seconds two
    millis := Field.separable_of_readable millis three }
  refine ⟨read?_clockLine title separable (separable_frameCounter counted), ?_⟩
  rcases bind_ok.mp counted with ⟨rate, _, made⟩
  rw [← pure_ok.mp made]
  exact ⟨rfl, rfl, rfl, rfl, rfl⟩

/-! ## The totals of a timing -/

/-- The total of universal time: the epoch, the stream time and what is added to both. -/
def utcSum (epoch total : FixedDecimal) : Expr :=
  .paren (.add (.add (.numeral (.fixed epoch)) (.symbol "t")) (.numeral (.fixed total)))

/-- The total of local time: that of universal time and an offset. -/
def localSum (utc : Expr) (offset : FixedDecimal) : Expr :=
  .paren (.add utc (.numeral (.fixed offset)))

theorem readable_utcSum {epoch total : FixedDecimal} (placed : 0 < epoch.places)
    (placed' : 0 < total.places) : (utcSum epoch total).Readable := by
  have stream : (Expr.symbol "t").Readable := Expr.readable_symbol (by decide) (by decide)
  exact ⟨⟨placed, stream, Nat.le_succ 1⟩, placed', Nat.le_succ 1⟩

theorem readable_localSum {utc : Expr} {offset : FixedDecimal} (readable : utc.Readable)
    (placed : 0 < offset.places) : (localSum utc offset).Readable :=
  ⟨readable, placed, Nat.le_succ 1⟩

theorem value?_utcSum (epoch total : FixedDecimal) (t : ℚ) :
    (utcSum epoch total).value? (atTime t) = some (epoch.value + total.value + t) := by
  have stream : (Expr.symbol "t").value? (atTime t) = some t := by
    rw [Expr.value?_symbol, atTime, if_pos rfl]
  rw [add_right_comm]
  exact Expr.value?_add (Expr.value?_add (Expr.value?_fixed epoch) stream) (Expr.value?_fixed total)

theorem value?_localSum {utc : Expr} {assign : String → Option ℚ} {seconds : ℚ}
    (evaluated : utc.value? assign = some seconds) (offset : FixedDecimal) :
    (localSum utc offset).value? assign = some (seconds + offset.value) :=
  Expr.value?_add evaluated (Expr.value?_fixed offset)

namespace Timing

theorem inRange_of_reference {epochMs totalMs : Number} {start : Instant}
    (started : reference epochMs totalMs = .ok start) : start.date.inRange = true := by
  rcases bind_ok.mp started with ⟨_, _, started⟩
  rcases bind_ok.mp started with ⟨_, _, started⟩
  rcases bind_ok.mp started with ⟨_, _, dated⟩
  exact Instant.inRange_of_ofSeconds dated

/-- Milliseconds that are an integer or finite are a decimal of seconds. -/
theorem exists_decimal_of_secondsExpr {millis : Number} {e : Expr}
    (made : secondsExpr millis = .ok e) (bounded : millis.Bounded) :
    ∃ d : FixedDecimal, d.places = 6 ∧ e = .numeral (.fixed d) := by
  rcases bind_ok.mp made with ⟨quotient, divided, made⟩
  rcases bind_ok.mp made with ⟨seconds, converted, made⟩
  rcases Number.exists_of_div 1000 (by decide) (by decide) divided with
    ⟨value, rfl, finite⟩
  cases converted
  rw [← pure_ok.mp made]
  cases seconds with
  | finite negative magnitude => exact ⟨_, rfl, rfl⟩
  | infinite _ => cases finite.mpr bounded
  | nan => cases finite.mpr bounded

/-- A stream that starts at an instant has a total of universal time with decimals. -/
theorem exists_decimals_of_utcTotal {epochMs totalMs : Number} {utc : Expr} {start : Instant}
    (made : utcTotal epochMs totalMs = .ok utc) (started : reference epochMs totalMs = .ok start) :
    ∃ epoch total : FixedDecimal, epoch.places = 6 ∧ total.places = 6 ∧
      utc = utcSum epoch total := by
  rcases bind_ok.mp started with ⟨sum, added, started⟩
  rcases bind_ok.mp started with ⟨quotient, divided, started⟩
  rcases bind_ok.mp started with ⟨seconds, converted, dated⟩
  rcases Number.exists_of_div 1000 (by decide) (by decide) divided with
    ⟨value, rfl, finite⟩
  cases converted
  have bounded := Number.bounded_of_add added (finite.mp (Instant.isFinite_of_ofSeconds dated))
  rcases bind_ok.mp made with ⟨epoch, madeEpoch, made⟩
  rcases bind_ok.mp made with ⟨total, madeTotal, made⟩
  rcases exists_decimal_of_secondsExpr madeEpoch bounded.1 with ⟨epoch, epochPlaces, rfl⟩
  rcases exists_decimal_of_secondsExpr madeTotal bounded.2 with ⟨total, totalPlaces, rfl⟩
  exact ⟨epoch, total, epochPlaces, totalPlaces, (pure_ok.mp made).symm⟩

/-- An integer of seconds is written exactly. -/
theorem exists_decimal_of_localTotal {utc here : Expr} {offsetSeconds : Int}
    (short : offsetSeconds.natAbs < 2 ^ 53) (made : localTotal utc offsetSeconds = .ok here) :
    ∃ d : FixedDecimal, d.places = 6 ∧ d.value = offsetSeconds ∧ here = localSum utc d := by
  rcases bind_ok.mp made with ⟨x, converted, made⟩
  rcases ofInt?_exact short with ⟨_, exact, counted⟩
  cases Option.some.inj (exact.symm.trans (Number.toBinary64_int.mp converted))
  rcases Expr.exists_fixed_of_units counted 6 with ⟨d, fixed, places, value⟩
  refine ⟨d, places, value, ?_⟩
  rw [← pure_ok.mp made, fixed]
  rfl

end Timing

/-- The totals of a timing are such sums of decimals, with the zone's offset as it is. -/
theorem exists_sums_of_ofReading {reading : Reading} {fps latencyMs : Value} {timing : Timing}
    (made : Timing.ofReading reading fps latencyMs = .ok timing) :
    ∃ (utcTitle localTitle : String) (frames : Field) (epoch total offset : FixedDecimal),
      timing.utcLine = Timing.clockLine utcTitle (utcSum epoch total) frames ∧
        timing.localLine =
          Timing.clockLine localTitle (localSum (utcSum epoch total) offset) frames ∧
        frameCounter fps = .ok frames ∧
        epoch.places = 6 ∧ total.places = 6 ∧ offset.places = 6 ∧
        offset.value = reading.zone.offsetSeconds := by
  rcases Timing.exists_parts made with ⟨parts, timed⟩
  rcases Timing.exists_decimals_of_utcTotal timed.utc timed.start with
    ⟨epoch, total, epochPlaces, totalPlaces, sum⟩
  rcases localZone_ok timed.zone with ⟨same, dated⟩
  -- The offset lies between two dates of the calendar, so binary64 holds it exactly.
  have short : parts.zone.offsetSeconds.natAbs < 2 ^ 53 := by
    have size := Zone.natAbs_offsetSeconds_le (Timing.inRange_of_reference timed.start) dated
    have calendar : 2 * Instant.calendarSeconds < 2 ^ 53 := by decide
    rw [same]
    omega
  rcases Timing.exists_decimal_of_localTotal short timed.here with
    ⟨offset, offsetPlaces, offsetValue, sumHere⟩
  rw [same] at offsetValue
  exact ⟨_, _, parts.frames, epoch, total, offset, sum ▸ timed.utcLine,
    sum ▸ sumHere ▸ timed.localLine, timed.frames, epochPlaces, totalPlaces, offsetPlaces,
    offsetValue⟩

/--
The clock shows a real time of day.  Each of its two lines of time is read as a title and
fields of fixed widths, and the total of a line is an instant at which the stream starts and
the stream time, for local time with the zone's offset as well.  At every stream time the
fields of a line are the hours, minutes, seconds and milliseconds of its total, before 1970 as
after it.  So local time is universal time and the offset, to the day, with the same
milliseconds.
-/
theorem tellsTime_ofReading {reading : Reading} {fps latencyMs : Value} {timing : Timing}
    (made : Timing.ofReading reading fps latencyMs = .ok timing) :
    ∃ (utc here : WrittenTime) (start : ℚ),
      WrittenTime.read? timing.utcLine = some utc ∧ utc.IsPadded ∧
        WrittenTime.read? timing.localLine = some here ∧ here.IsPadded ∧
        ∀ t : ℚ, ∃ time timeHere : DayTime,
          utc.Tells t (start + t) time ∧
            here.Tells t (start + t + reading.zone.offsetSeconds) timeHere ∧
            timeHere.secondsOfDay =
              (time.secondsOfDay + reading.zone.offsetSeconds) % 86400 ∧
            timeHere.millis = time.millis := by
  rcases exists_sums_of_ofReading made with ⟨utcTitle, localTitle, frames, epoch, total, offset,
    utcLine, localLine, counted, epochPlaces, totalPlaces, offsetPlaces, offsetValue⟩
  have readable : (utcSum epoch total).Readable :=
    readable_utcSum (epochPlaces ▸ by decide) (totalPlaces ▸ by decide)
  have readableHere : (localSum (utcSum epoch total) offset).Readable :=
    readable_localSum readable (offsetPlaces ▸ by decide)
  rcases reads_clockLine counted readable (Nat.le_refl 2) utcTitle with ⟨read, padded⟩
  rcases reads_clockLine counted readableHere (Nat.le_refl 2) localTitle with
    ⟨readHere, paddedHere⟩
  refine ⟨_, _, epoch.value + total.value, utcLine ▸ read, padded, localLine ▸ readHere,
    paddedHere, fun t => ?_⟩
  have evaluated := value?_utcSum epoch total t
  have evaluatedHere := value?_localSum evaluated offset
  rw [offsetValue] at evaluatedHere
  exact ⟨_, _, tells_of_value readable (Nat.le_refl 2) evaluated utcTitle frames,
    tells_of_value readableHere (Nat.le_refl 2) evaluatedHere localTitle frames,
    DayTime.secondsOfDay_ofSeconds_add _ _, DayTime.millis_ofSeconds_add _ _⟩

/-- A clock one hour behind universal time, at the start of 1970. -/
def westernReading : Reading where
  epochMs := 0
  latencyMs := 200
  offsetMs := .null
  source := "host"
  uncertaintyMs := .null
  zone := .fixed (-3600000000) none

def westernUtcLine : String :=
  "UTC 1970-01-01 " ++
    "%\x7beif:floor((0.000000+t+0.200000)/3600)-24*floor((0.000000+t+0.200000)/86400):d:02\x7d:" ++
    "%\x7beif:floor((0.000000+t+0.200000)/60)-60*floor((0.000000+t+0.200000)/3600):d:02\x7d:" ++
    "%\x7beif:floor((0.000000+t+0.200000))-60*floor((0.000000+t+0.200000)/60):d:02\x7d:" ++
    "%\x7beif:mod(n,25):d:02\x7d.%\x7beif:floor(1000*mod((0.000000+t+0.200000),1)):d:03\x7d"

def westernLocalLine : String :=
  "UTC-01:00 -01:00 1969-12-31 " ++
    "%\x7beif:floor(((0.000000+t+0.200000)+-3600.000000)/3600)" ++
      "-24*floor(((0.000000+t+0.200000)+-3600.000000)/86400):d:02\x7d:" ++
    "%\x7beif:floor(((0.000000+t+0.200000)+-3600.000000)/60)" ++
      "-60*floor(((0.000000+t+0.200000)+-3600.000000)/3600):d:02\x7d:" ++
    "%\x7beif:floor(((0.000000+t+0.200000)+-3600.000000))" ++
      "-60*floor(((0.000000+t+0.200000)+-3600.000000)/60):d:02\x7d:" ++
    "%\x7beif:mod(n,25):d:02\x7d." ++
    "%\x7beif:floor(1000*mod(((0.000000+t+0.200000)+-3600.000000),1)):d:03\x7d"

/-- Half a second before the stream starts both lines show a time of day. -/
theorem tellsTime_ofReading_showcase :
    ∃ timing utc here start time timeHere,
      Timing.ofReading westernReading (.number 25) .null = .ok timing ∧
        timing.utcLine = westernUtcLine ∧ timing.localLine = westernLocalLine ∧
        WrittenTime.read? westernUtcLine = some utc ∧ utc.IsPadded ∧
        WrittenTime.read? westernLocalLine = some here ∧ here.IsPadded ∧
        utc.Tells (-1 / 2) (start + -1 / 2) time ∧
        here.Tells (-1 / 2) (start + -1 / 2 + -3600) timeHere ∧
        timeHere.secondsOfDay = (time.secondsOfDay + -3600) % 86400 ∧
        timeHere.millis = time.millis := by
  have finishes : (Timing.ofReading westernReading (.number 25) .null).toOption.any (fun timing =>
      timing.utcLine = westernUtcLine ∧ timing.localLine = westernLocalLine) = true := by
    decide +kernel
  rcases any_ok.mp finishes with ⟨timing, made, lines⟩
  rcases of_decide_eq_true lines with ⟨utcLine, localLine⟩
  rcases tellsTime_ofReading made with
    ⟨utc, here, start, read, padded, readHere, paddedHere, tells⟩
  rw [utcLine] at read
  rw [localLine] at readHere
  rcases tells (-1 / 2) with ⟨time, timeHere, shown, shownHere, secondsOfDay, millis⟩
  have west : westernReading.zone.offsetSeconds = -3600 := by decide
  rw [west] at shownHere secondsOfDay
  exact ⟨timing, utc, here, start, time, timeHere, made, utcLine, localLine, read, padded,
    readHere, paddedHere, shown, by exact_mod_cast shownHere, secondsOfDay, millis⟩

example : Expr.textValue? (atTime (1 / 2)) "floor(((0.250000+t+0.000000)+-3600.000000)/60)" =
    some (-60) := by decide +kernel

end Clock

end TestSignal
