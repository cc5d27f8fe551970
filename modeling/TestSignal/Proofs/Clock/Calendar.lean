import TestSignal.Clock.Zone
import TestSignal.Proofs.Number.Bounds

namespace TestSignal

open Binary64

/-!
# Instants in the calendar

An instant of a year from 1 to 9999 is not far from 1970, so it passes every other limit
on the way from a count of seconds to a date: the count fits into 63 bits, and its year
into 31.  The same holds of what a zone shows of it, because the offset between two dates
of the calendar is bounded by the calendar.

Whole seconds are counted exactly whatever their size.  The fraction that is left is at
most one second, and so are its microseconds.
-/

namespace Binary64

/-! ## Whole parts -/

/-- A magnitude cut off to whole ones is held: a great one is whole already. -/
theorem held_truncated {magnitude : Nat} (bounded : magnitude < magnitudeCount) :
    Held (unitsOfMagnitude magnitude / unitsPerOne * unitsPerOne) := by
  have power : ∃ width, unitsPerOne = Nat.pow 2 width := ⟨1074, unitsPerOne_eq_pow⟩
  rcases power with ⟨width, one⟩
  rw [Nat.pow_eq] at one
  rcases Nat.lt_or_ge (unitsOfMagnitude magnitude) (2 ^ 53 * unitsPerOne) with small | great
  · exact held_integer ((Nat.div_lt_iff_lt_mul unitsPerOne_pos).mpr small)
  · rcases magnitude_cases magnitude with low | ⟨fraction, spacing, short, rfl⟩
    · rw [unitsOfMagnitude_low low] at great
      have block := magnitudesPerBlock_le_unitsPerOne
      omega
    · have wide : width ≤ spacing := by
        apply Nat.le_of_not_lt
        intro narrow
        have block : magnitudesPerBlock = 2 ^ 52 := rfl
        have significand : magnitudesPerBlock + fraction < 2 ^ 53 := by omega
        have below : (magnitudesPerBlock + fraction) * 2 ^ spacing < 2 ^ 53 * 2 ^ width :=
          Nat.mul_lt_mul_of_lt_of_le significand (two_pow_le (Nat.le_of_lt narrow))
            (Nat.two_pow_pos width)
        rw [unitsOfMagnitude_block short, one] at great
        exact Nat.not_le.mpr below great
      have whole : unitsPerOne ∣ unitsOfMagnitude (fraction + (spacing + 1) * magnitudesPerBlock) := by
        rw [unitsOfMagnitude_block short, one]
        exact Nat.dvd_mul_left_of_dvd (Nat.pow_dvd_pow 2 wide) _
      rw [Nat.div_mul_cancel whole]
      exact ⟨_, bounded, rfl⟩

theorem natAbs_units {x : Binary64} {units : Int} (counted : x.units? = some units) :
    ∃ magnitude, magnitude < magnitudeCount ∧ units.natAbs = unitsOfMagnitude magnitude := by
  cases x with
  | infinite _ => cases counted
  | nan => cases counted
  | finite negative magnitude =>
      refine ⟨magnitude.val, magnitude.isLt, ?_⟩
      have signed := Option.some.inj counted
      split at signed <;> omega

/-- The whole part of a finite number is converted exactly, and less than one is left. -/
theorem exists_whole {x : Binary64} {whole : Int} (cut : x.truncate? = some whole) :
    ∃ y, ofInt? whole = some y ∧ Within unitsPerOne (x.sub y) := by
  rcases Option.map_eq_some_iff.mp cut with ⟨units, counted, rfl⟩
  rcases natAbs_units counted with ⟨magnitude, bounded, size⟩
  have held : Held ((units.tdiv unitsPerOne).natAbs * unitsPerOne) := by
    rw [Int.natAbs_tdiv, size, Int.natAbs_natCast]
    exact held_truncated bounded
  rcases ofInt?_held held with ⟨y, converted, wholeUnits⟩
  refine ⟨y, converted, within_add counted (units?_neg wholeUnits) ?_ ?_⟩
  · have one : Held (1 * unitsPerOne) := held_integer (by decide)
    rw [Nat.one_mul] at one
    exact one
  · have left : units + -(units.tdiv unitsPerOne * unitsPerOne) = units.tmod unitsPerOne := by
      rw [Int.tmod_def, Int.mul_comm]
      rfl
    rw [left, Int.natAbs_tmod, Int.natAbs_natCast]
    exact Nat.le_of_lt (Nat.mod_lt _ unitsPerOne_pos)

end Binary64

namespace Clock

/-! ## Instants -/

namespace Instant

/-- The microseconds of a fraction of at most one second are at most those of one. -/
theorem natAbs_fractionMicros_le {fraction : Binary64} (within : Within unitsPerOne fraction) :
    (fractionMicros fraction).natAbs ≤ microsPerSecond := by
  have million : Within (microsPerSecond * unitsPerOne)
      (Binary64.ofDecimal false microsPerSecond 0) :=
    within_ofDecimal microsPerSecond 0 (by decide) (by decide) (by decide)
  have scaled := within.mul million (held_integer (by decide)) (Nat.le_of_eq (Nat.mul_comm _ _))
  unfold fractionMicros
  dsimp only
  split
  case h_1 negative magnitude same =>
      rw [same] at scaled
      have rounded := Rounding.nearestEven_le unitsPerOne_pos (within_finite.mp scaled)
      split <;> omega
  case h_2 => exact Nat.zero_le _

/-- An instant is its whole seconds and at most one second more or less. -/
theorem exists_seconds {seconds : Binary64} {micros : Int}
    (counted : microsOf? seconds = some micros) :
    ∃ whole, seconds.truncate? = some whole ∧
      (micros - whole * microsPerSecond).natAbs ≤ microsPerSecond := by
  rcases Option.bind_eq_some_iff.mp counted with ⟨whole, cut, rest⟩
  rcases exists_whole cut with ⟨y, converted, left⟩
  dsimp only at rest
  rw [converted, Option.getD_some] at rest
  refine ⟨whole, cut, ?_⟩
  rw [← Option.some.inj rest, Int.add_comm, Int.add_sub_cancel]
  exact natAbs_fractionMicros_le left

end Instant

/-! ## The calendar -/

/-- The days from the first of 1970 to either end of the calendar are fewer than this. -/
def calendarDays : Nat := 3000000

theorem Date.natAbs_day_lt {day : Int} (dated : (Date.ofDay day).inRange = true) :
    day.natAbs < calendarDays := by
  unfold Date.inRange Date.ofDay at dated
  rw [Bool.and_eq_true, decide_eq_true_iff, decide_eq_true_iff] at dated
  dsimp only at dated
  have era := Int.fdiv_eq_ediv_of_nonneg (day + 719468) (show (0 : Int) ≤ 146097 by decide)
  unfold calendarDays
  rw [era] at dated
  split at dated <;> omega

namespace Instant

/-- The seconds of that many days. -/
def calendarSeconds : Nat := calendarDays * secondsPerDay

theorem natAbs_micros_le {instant : Instant} (dated : instant.date.inRange = true) :
    instant.micros.natAbs ≤ calendarSeconds * microsPerSecond := by
  have days := Date.natAbs_day_lt dated
  rw [Int.fdiv_eq_ediv_of_nonneg _ (by decide)] at days
  unfold calendarSeconds calendarDays secondsPerDay microsPerSecond at *
  omega

/-- A count of seconds whose microseconds are in the calendar is an instant. -/
theorem ofSeconds_of_inRange {seconds : Binary64} {micros : Int}
    (counted : microsOf? seconds = some micros)
    (dated : (Instant.mk micros).date.inRange = true) :
    ofSeconds seconds = .ok ⟨micros⟩ := by
  rcases exists_seconds counted with ⟨whole, cut, near⟩
  have size := natAbs_micros_le dated
  have years : 1 ≤ (Instant.mk micros).date.year ∧ (Instant.mk micros).date.year ≤ 9999 := by
    unfold Date.inRange at dated
    rw [Bool.and_eq_true, decide_eq_true_iff, decide_eq_true_iff] at dated
    exact dated
  have seconds63 : secondLimit = 2 ^ 63 := rfl
  have years31 : yearLimit = 2 ^ 31 := rfl
  unfold calendarSeconds calendarDays secondsPerDay microsPerSecond at *
  dsimp only at size
  have holds : ¬(decide (whole < -secondLimit) || decide (secondLimit ≤ whole)) = true := by
    rw [Bool.or_eq_true, decide_eq_true_iff, decide_eq_true_iff]
    omega
  have dates : ¬(decide ((Instant.mk micros).date.year - 1900 < -yearLimit) ||
      decide (yearLimit ≤ (Instant.mk micros).date.year - 1900)) = true := by
    rw [Bool.or_eq_true, decide_eq_true_iff, decide_eq_true_iff]
    omega
  unfold ofSeconds
  rw [cut]
  dsimp only
  rw [counted, Option.getD_some, if_neg holds, if_neg dates, if_pos dated]

/-- Only a finite count of seconds is an instant. -/
theorem isFinite_of_ofSeconds {seconds : Binary64} {instant : Instant}
    (dated : ofSeconds seconds = .ok instant) : seconds.isFinite = true := by
  cases seconds with
  | finite _ _ => rfl
  | infinite _ => cases dated
  | nan => cases dated

/-- The instant of a count of seconds is in the calendar. -/
theorem inRange_of_ofSeconds {seconds : Binary64} {instant : Instant}
    (dated : ofSeconds seconds = .ok instant) : instant.date.inRange = true := by
  unfold ofSeconds at dated
  split at dated
  · cases dated
  · split at dated
    · cases dated
    · dsimp only at dated
      split at dated
      · cases dated
      · split at dated
        · rename_i inRange
          rw [← Except.ok.inj dated]
          exact inRange
        · cases dated

end Instant

/-! ## Zones -/

/-- An offset between two dates of the calendar is no longer than the calendar. -/
theorem Zone.natAbs_offsetSeconds_le {instant : Instant} {zone : Zone}
    (dated : instant.date.inRange = true)
    (here : (Instant.mk (instant.micros + zone.offsetMicros)).date.inRange = true) :
    zone.offsetSeconds.natAbs ≤ 2 * Instant.calendarSeconds := by
  have left := Instant.natAbs_micros_le dated
  have right := Instant.natAbs_micros_le here
  have whole : zone.offsetSeconds.natAbs = zone.offsetMicros.natAbs / microsPerSecond :=
    Int.natAbs_tdiv _ _
  unfold microsPerSecond at *
  dsimp only at right
  omega

/-- A zone shows an instant whose local date is in the calendar. -/
theorem exists_localZone {instant : Instant} {zone : Zone} (dated : instant.date.inRange = true)
    (here : (Instant.mk (instant.micros + zone.offsetMicros)).date.inRange = true) :
    ∃ shown, localZone instant zone = .ok shown ∧ shown.offsetSeconds = zone.offsetSeconds := by
  have size := Zone.natAbs_offsetSeconds_le dated here
  have short : 2 * Instant.calendarSeconds < 2 ^ 51 := by decide
  have below : zone.offsetSeconds.natAbs * unitsPerOne ≤
      2 * Instant.calendarSeconds * unitsPerOne * 60 :=
    Nat.le_trans (Nat.mul_le_mul_right _ size) (Nat.le_mul_of_pos_right _ (by decide))
  rcases Number.exists_div_int (by decide) (held_integer (Nat.lt_trans short (by decide))) below
    with ⟨minutes, divided, within⟩
  rcases Number.exists_roundHalfUp short within with ⟨rounded, made, _⟩
  have labelled : ∃ label, Zone.offsetText (.float minutes) = .ok label :=
    ⟨_, Outcome.bind_ok.mpr ⟨rounded, made, rfl⟩⟩
  rcases labelled with ⟨label, labelled⟩
  unfold localZone
  rw [if_pos here]
  exact ⟨_, Outcome.bind_ok.mpr ⟨_, divided, Outcome.bind_ok.mpr ⟨label, labelled, rfl⟩⟩, rfl⟩

/-- A zone is shown with its own offset, on a date of the calendar. -/
theorem localZone_ok {instant : Instant} {zone : Zone} {shown : LocalZone}
    (localized : localZone instant zone = .ok shown) :
    shown.offsetSeconds = zone.offsetSeconds ∧
      (Instant.mk (instant.micros + zone.offsetMicros)).date.inRange = true := by
  unfold localZone at localized
  dsimp only at localized
  split at localized
  · rename_i inRange
    rcases Outcome.bind_ok.mp localized with ⟨minutes, _, localized⟩
    rcases Outcome.bind_ok.mp localized with ⟨label, _, localized⟩
    rw [← Outcome.pure_ok.mp localized]
    exact ⟨rfl, inRange⟩
  · cases localized

end Clock

end TestSignal
