import TestSignal.Proofs.Clock.Update
import TestSignal.Proofs.Number.Bounds

namespace TestSignal

namespace Clock

/-!
# Values that an update cannot use

An update looks at its values one field after the other.  What a field cannot use leaves it
alone, as if it had been left out, so a bad value does not keep the others from being written.

There is one exception.  An integer beyond binary64 is not judged but raises a fault, which ends
the update where it is: the fields before it are written, and those after it are not.  So an
update has the effect of its usable values exactly when none of its numbers is such an integer.
-/

/-! ## Values -/

/-- The number that a value is, if it is one that binary64 has a finite number for. -/
def usableNumber? : Value → Option Number
  | .number (.int whole) => if whole.natAbs < Number.integerLimit then some (.int whole) else none
  | .number (.float x) => if x.isFinite then some (.float x) else none
  | _ => none

/-- An integer beyond the finite numbers of binary64. -/
def isTooLarge : Value → Bool
  | .number (.int whole) => decide (Number.integerLimit ≤ whole.natAbs)
  | _ => false

/-- A latency is not negative either. -/
def usableLatency? (value : Value) : Option Number :=
  (usableNumber? value).filter fun latency => (0 : Number).le latency

/-- A source is a text that is not blank. -/
def usableSource? : Value → Option String
  | .string text => if Text.hasInk text then some (Text.trim text) else none
  | _ => none

/-- An optional number may also be null. -/
def usableOptional? : Value → Option (Option Number)
  | .null => some none
  | value => (usableNumber? value).map some

/-- Only an integer can be too large. -/
theorem exists_of_isTooLarge {value : Value} (large : isTooLarge value = true) :
    ∃ whole, value = .number (.int whole) ∧ Number.integerLimit ≤ whole.natAbs := by
  unfold isTooLarge at large
  split at large
  · exact ⟨_, rfl, of_decide_eq_true large⟩
  · exact absurd large Bool.false_ne_true

theorem usableNumber?_of_isTooLarge {value : Value} (large : isTooLarge value = true) :
    usableNumber? value = none := by
  rcases exists_of_isTooLarge large with ⟨whole, rfl, beyond⟩
  rw [usableNumber?, if_neg (Nat.not_lt.mpr beyond)]

/-- A number is usable as it is when it is finite. -/
theorem usableNumber?_number_iff {x y : Number} :
    usableNumber? (.number x) = some y ↔ x = y ∧ x.isFinite = .ok true := by
  cases x with
  | int whole =>
      have finite : (Number.int whole).isFinite = .ok true ↔ whole.natAbs < Number.integerLimit :=
        ⟨Number.natAbs_lt_of_isFinite, Number.isFinite_int⟩
      rw [usableNumber?, Option.ite_none_right_eq_some, Option.some.injEq, finite, and_comm]
  | float x =>
      have finite : (Number.float x).isFinite = .ok x.isFinite := rfl
      rw [usableNumber?, Option.ite_none_right_eq_some, Option.some.injEq, finite,
        Except.ok.injEq, and_comm]

theorem finiteNumber?_of_isTooLarge {value : Value} (large : isTooLarge value = true) :
    finiteNumber? value = .error .integerTooLarge := by
  rcases exists_of_isTooLarge large with ⟨whole, rfl, beyond⟩
  have fault := Number.toBinary64_int_of_le beyond
  simp only [finiteNumber?, Number.isFinite, fault]
  rfl

/-- Every other value is judged, and found to be a usable number or none. -/
theorem finiteNumber?_of_not_isTooLarge {value : Value} (small : isTooLarge value = false) :
    finiteNumber? value = .ok (usableNumber? value) := by
  cases value with
  | number number =>
      cases number with
      | int whole =>
          have below : whole.natAbs < Number.integerLimit := by
            simpa only [isTooLarge, decide_eq_false_iff_not, Nat.not_le] using small
          rw [finiteNumber?_number (Number.isFinite_int below), usableNumber?, if_pos below]
      | float x => rfl
  | null | bool _ | string _ | list _ | object _ => rfl

/-! ## Arguments that can be used -/

/-- A value, or null in its place. -/
def keptIf (usable : Bool) (value : Value) : Value := if usable then value else .null

/-- An update without the arguments that it cannot use. -/
def TimebaseUpdate.usable (arguments : TimebaseUpdate) : TimebaseUpdate where
  latencyMs := keptIf (usableLatency? arguments.latencyMs).isSome arguments.latencyMs
  offsetMs := keptIf (usableNumber? arguments.offsetMs).isSome arguments.offsetMs
  source := keptIf (usableSource? arguments.source).isSome arguments.source
  epochMs := keptIf (usableNumber? arguments.epochMs).isSome arguments.epochMs
  freezeEpoch := arguments.freezeEpoch
  uncertaintyMs := arguments.uncertaintyMs.filter fun value => (usableOptional? value).isSome
  timestampMs := arguments.timestampMs.filter fun value => (usableOptional? value).isSome

theorem isTooLarge_of_usable {value : Value} (usable : (usableNumber? value).isSome = true) :
    isTooLarge value = false := by
  rw [Bool.eq_false_iff]
  intro large
  rw [usableNumber?_of_isTooLarge large] at usable
  cases usable

theorem isTooLarge_keptIf {usable : Bool} {value : Value}
    (judged : usable = true → (usableNumber? value).isSome = true) :
    isTooLarge (keptIf usable value) = false := by
  cases usable with
  | false => rfl
  | true => exact isTooLarge_of_usable (judged rfl)

theorem isTooLarge_of_usableOptional? {value : Value}
    (usable : (usableOptional? value).isSome = true) : isTooLarge value = false := by
  cases value with
  | number number =>
      apply isTooLarge_of_usable
      rwa [usableOptional?, Option.isSome_map] at usable
      exact nofun
  | null | bool _ | string _ | list _ | object _ => rfl

/-- What a value is used for does not change when it is left out where it cannot be used. -/
theorem read_keptIf {α : Type} (read : Value → Option α) (unread : read .null = none)
    (value : Value) : read (keptIf (read value).isSome value) = read value := by
  cases present : (read value).isSome with
  | true => rfl
  | false =>
      have absent := Option.isNone_iff_eq_none.mp (Option.isSome_eq_false_iff.mp present)
      exact unread.trans absent.symm

theorem bind_filter_isSome {α β : Type} (given : Option α) (read : α → Option β) :
    (given.filter fun value => (read value).isSome).bind read = given.bind read := by
  cases given with
  | none => rfl
  | some value =>
      cases present : read value with
      | none => simp [Option.filter, present]
      | some result => simp [Option.filter, present]

/-! ## Fields -/

/-- The fields of a timebase that an update may write. -/
inductive WrittenField where
  | latency | offset | uncertainty | source | lastSync | epoch
  deriving DecidableEq

namespace WrittenField

/-- The fields in the order in which they are written. -/
def all : List WrittenField := [latency, offset, uncertainty, source, lastSync, epoch]

variable (arguments : TimebaseUpdate) (nowMs : Number)

/-- The step of an update that writes a field. -/
def write : WrittenField → Timebase.Step
  | latency => Timebase.setLatency arguments.latencyMs
  | offset => Timebase.setOffset arguments.offsetMs
  | uncertainty =>
      Timebase.setOptional (fun number timebase => { timebase with uncertaintyMs := number })
        arguments.uncertaintyMs
  | source => Timebase.setSource arguments.source
  | lastSync =>
      Timebase.setOptional (fun number timebase => { timebase with lastSyncMs := number })
        arguments.timestampMs
  | epoch => Timebase.setEpoch arguments.epochMs arguments.freezeEpoch nowMs

/-- Writes some fields, one after the other. -/
def writeAll (fields : List WrittenField) : Timebase.Step :=
  forM fields fun field => field.write arguments nowMs

/-- The value of a field that is judged as a number. -/
def judged? : WrittenField → Option Value
  | latency => some arguments.latencyMs
  | offset => some arguments.offsetMs
  | uncertainty => arguments.uncertaintyMs
  | source => none
  | lastSync => arguments.timestampMs
  | epoch => some arguments.epochMs

/-- An update ends at a field whose value is too large to be judged. -/
def stops (field : WrittenField) : Bool := (field.judged? arguments).any isTooLarge

/-- What the value of a field makes of a timebase. -/
def effect (field : WrittenField) (timebase : Timebase) : Timebase :=
  match field with
  | latency =>
      { timebase with
        latencyMs := (usableLatency? arguments.latencyMs).getD timebase.latencyMs }
  | offset =>
      { timebase with offsetMs := (usableNumber? arguments.offsetMs).getD timebase.offsetMs }
  | uncertainty =>
      { timebase with
        uncertaintyMs :=
          (arguments.uncertaintyMs.bind usableOptional?).getD timebase.uncertaintyMs }
  | source =>
      { timebase with source := (usableSource? arguments.source).getD timebase.source }
  | lastSync =>
      { timebase with
        lastSyncMs := (arguments.timestampMs.bind usableOptional?).getD timebase.lastSyncMs }
  | epoch =>
      { timebase with
        epochMs := (usableNumber? arguments.epochMs).getD
          (if arguments.freezeEpoch then timebase.epochMs else nowMs) }

/-- What the values of some fields make of a timebase, one after the other. -/
def effects (fields : List WrittenField) (timebase : Timebase) : Timebase :=
  fields.foldl (fun timebase field => field.effect arguments nowMs timebase) timebase

end WrittenField

namespace Timebase

variable {value : Value} {timebase : Timebase}

/-! ## One field -/

theorem judge_of_isTooLarge (large : isTooLarge value = true) :
    judge value timebase = (.error .integerTooLarge, timebase) :=
  congrArg (·, timebase) (finiteNumber?_of_isTooLarge large)

theorem judge_of_not_isTooLarge (small : isTooLarge value = false) :
    judge value timebase = (.ok (usableNumber? value), timebase) :=
  congrArg (·, timebase) (finiteNumber?_of_not_isTooLarge small)

theorem setLatency_of_not_isTooLarge (small : isTooLarge value = false) :
    setLatency value timebase =
      (.ok (), { timebase with latencyMs := (usableLatency? value).getD timebase.latencyMs }) := by
  refine (Outcome.bind_of_run_ok (judge_of_not_isTooLarge small) _).trans ?_
  unfold usableLatency?
  cases usableNumber? value with
  | none => rfl
  | some latency =>
      cases sign : (0 : Number).le latency <;> simp only [Option.filter, sign] <;> rfl

theorem setOffset_of_not_isTooLarge (small : isTooLarge value = false) :
    setOffset value timebase =
      (.ok (), { timebase with offsetMs := (usableNumber? value).getD timebase.offsetMs }) := by
  refine (Outcome.bind_of_run_ok (judge_of_not_isTooLarge small) _).trans ?_
  cases usableNumber? value <;> rfl

theorem setSource_run :
    setSource value timebase =
      (.ok (), { timebase with source := (usableSource? value).getD timebase.source }) := by
  cases value with
  | string text =>
      unfold setSource usableSource?
      dsimp only
      split <;> rfl
  | null | bool _ | number _ | list _ | object _ => rfl

theorem setEpoch_of_not_isTooLarge (small : isTooLarge value = false) (freeze : Bool)
    (nowMs : Number) :
    setEpoch value freeze nowMs timebase =
      (.ok (),
        { timebase with
          epochMs := (usableNumber? value).getD (if freeze then timebase.epochMs else nowMs) }) := by
  refine (Outcome.bind_of_run_ok (judge_of_not_isTooLarge small) _).trans ?_
  cases usableNumber? value with
  | some epoch => rfl
  | none => cases freeze <;> rfl

section Optional

variable (set : Option Number → Timebase → Timebase)

theorem setOptional_of_isTooLarge {value : Option Value} (large : value.any isTooLarge = true) :
    setOptional set value timebase = (.error .integerTooLarge, timebase) := by
  cases value with
  | none => cases large
  | some value =>
      rw [Option.any_some] at large
      have ended : judge value timebase = _ := judge_of_isTooLarge large
      rcases exists_of_isTooLarge large with ⟨whole, rfl, -⟩
      exact Outcome.bind_of_run_error ended _

/-- What is left out, or cannot be used, changes nothing. -/
theorem setOptional_of_not_isTooLarge {value : Option Value}
    (small : value.any isTooLarge = false) :
    setOptional set value timebase =
      (.ok (), ((value.bind usableOptional?).map (set · timebase)).getD timebase) := by
  cases value with
  | none => rfl
  | some value =>
      rw [Option.any_some] at small
      cases value with
      | null => rfl
      | number _ | bool _ | string _ | list _ | object _ =>
          refine (Outcome.bind_of_run_ok (judge_of_not_isTooLarge small) _).trans ?_
          simp only [Option.bind_some, usableOptional?]
          cases usableNumber? _ <;> rfl

end Optional

section Steps

variable {arguments : TimebaseUpdate} {nowMs : Number} {field : WrittenField}

theorem write_of_stops (stops : field.stops arguments = true) :
    field.write arguments nowMs timebase = (.error .integerTooLarge, timebase) := by
  unfold WrittenField.write
  unfold WrittenField.stops WrittenField.judged? at stops
  cases field with
  | latency | offset | epoch =>
      exact Outcome.bind_of_run_error (judge_of_isTooLarge stops) _
  | uncertainty => exact setOptional_of_isTooLarge _ stops
  | lastSync => exact setOptional_of_isTooLarge _ stops
  | source => cases stops

theorem write_of_passes (passes : field.stops arguments = false) :
    field.write arguments nowMs timebase =
      (.ok (), field.effect arguments nowMs timebase) := by
  unfold WrittenField.write WrittenField.effect
  unfold WrittenField.stops WrittenField.judged? at passes
  cases field with
  | latency => exact setLatency_of_not_isTooLarge passes
  | offset => exact setOffset_of_not_isTooLarge passes
  | uncertainty =>
      refine (setOptional_of_not_isTooLarge _ passes).trans ?_
      cases arguments.uncertaintyMs.bind usableOptional? <;> rfl
  | lastSync =>
      refine (setOptional_of_not_isTooLarge _ passes).trans ?_
      cases arguments.timestampMs.bind usableOptional? <;> rfl
  | source => exact setSource_run
  | epoch => exact setEpoch_of_not_isTooLarge passes _ _

/-! ## A run of fields -/

variable {fields before later : List WrittenField}

/-- An update writes its fields one after the other. -/
theorem update_eq_writeAll :
    update arguments nowMs = WrittenField.writeAll arguments nowMs WrittenField.all := by
  simp only [WrittenField.writeAll, WrittenField.all, List.forM_cons, List.forM_nil,
    bind_pure_unit]
  rfl

theorem writeAll_of_passes (passes : ∀ field ∈ fields, field.stops arguments = false) :
    WrittenField.writeAll arguments nowMs fields timebase =
      (.ok (), WrittenField.effects arguments nowMs fields timebase) := by
  induction fields generalizing timebase with
  | nil => rfl
  | cons field rest inductionHypothesis =>
      rcases List.forall_mem_cons.mp passes with ⟨first, others⟩
      rw [WrittenField.writeAll, List.forM_cons, Outcome.bind_of_run_ok (write_of_passes first)]
      exact inductionHypothesis others

/-- A run ends at the first field that is too large, with the fields before it written. -/
theorem writeAll_of_stops (passes : ∀ field ∈ before, field.stops arguments = false)
    (stops : field.stops arguments = true) :
    WrittenField.writeAll arguments nowMs (before ++ field :: later) timebase =
      (.error .integerTooLarge, WrittenField.effects arguments nowMs before timebase) := by
  induction before generalizing timebase with
  | nil =>
      rw [WrittenField.writeAll, List.nil_append, List.forM_cons]
      exact Outcome.bind_of_run_error (write_of_stops stops) _
  | cons first rest inductionHypothesis =>
      rcases List.forall_mem_cons.mp passes with ⟨passesFirst, others⟩
      rw [WrittenField.writeAll, List.cons_append, List.forM_cons,
        Outcome.bind_of_run_ok (write_of_passes passesFirst)]
      exact inductionHypothesis others

/-! ## The usable part of an update -/

/-- No usable value is too large. -/
theorem stops_usable (arguments : TimebaseUpdate) (field : WrittenField) :
    field.stops arguments.usable = false := by
  have optional {value : Option Value} :
      (value.filter fun value => (usableOptional? value).isSome).any isTooLarge = false := by
    rw [Option.any_eq_false]
    intro kept given
    exact isTooLarge_of_usableOptional? (Option.filter_eq_some_iff.mp given).2
  cases field with
  | latency =>
      refine isTooLarge_keptIf fun usable => ?_
      rcases Option.isSome_iff_exists.mp usable with ⟨latency, given⟩
      exact Option.isSome_of_mem (Option.filter_eq_some_iff.mp given).1
  | offset | epoch => exact isTooLarge_keptIf id
  | uncertainty | lastSync => exact optional
  | source => rfl

theorem effect_usable (arguments : TimebaseUpdate) (nowMs : Number) (field : WrittenField) :
    field.effect arguments.usable nowMs = field.effect arguments nowMs := by
  funext timebase
  cases field with
  | latency =>
      simp only [WrittenField.effect, TimebaseUpdate.usable, read_keptIf usableLatency? rfl]
  | offset =>
      simp only [WrittenField.effect, TimebaseUpdate.usable, read_keptIf usableNumber? rfl]
  | epoch =>
      simp only [WrittenField.effect, TimebaseUpdate.usable, read_keptIf usableNumber? rfl]
      rfl
  | source =>
      simp only [WrittenField.effect, TimebaseUpdate.usable, read_keptIf usableSource? rfl]
  | uncertainty | lastSync =>
      simp only [WrittenField.effect, TimebaseUpdate.usable, bind_filter_isSome]

theorem writeAll_usable (fields : List WrittenField) :
    WrittenField.writeAll arguments.usable nowMs fields timebase =
      (.ok (), WrittenField.effects arguments nowMs fields timebase) := by
  rw [writeAll_of_passes fun field _ => stops_usable arguments field]
  simp only [WrittenField.effects, effect_usable]

end Steps

/-! ## The whole update -/

section Update

variable {arguments : TimebaseUpdate} {nowMs : Number} {after : Timebase}

theorem update_usable (arguments : TimebaseUpdate) (nowMs : Number) (timebase : Timebase) :
    update arguments.usable nowMs timebase =
      (.ok (), WrittenField.effects arguments nowMs WrittenField.all timebase) := by
  rw [update_eq_writeAll, writeAll_usable]

/-- Either no field is too large, or there is a first one that is. -/
theorem passes_or_exists_stops (arguments : TimebaseUpdate) :
    (∀ field, WrittenField.stops arguments field = false) ∨
      ∃ before field later, WrittenField.all = before ++ field :: later ∧
        (∀ earlier ∈ before, earlier.stops arguments = false) ∧ field.stops arguments = true := by
  cases found : WrittenField.all.find? (WrittenField.stops arguments) with
  | none =>
      left
      intro field
      have member : field ∈ WrittenField.all := by cases field <;> decide
      exact Bool.eq_false_iff.mpr (List.find?_eq_none.mp found field member)
  | some field =>
      right
      rcases List.find?_eq_some_iff_append.mp found with ⟨stops, before, later, split, passes⟩
      refine ⟨before, field, later, split, fun earlier member => ?_, stops⟩
      exact (Bool.not_eq_true' _).mp (passes earlier member)

theorem update_of_passes (passes : ∀ field, WrittenField.stops arguments field = false) :
    update arguments nowMs timebase = update arguments.usable nowMs timebase := by
  rw [update_usable, update_eq_writeAll, writeAll_of_passes fun field _ => passes field]

theorem update_of_stops {before later : List WrittenField} {field : WrittenField}
    (split : WrittenField.all = before ++ field :: later)
    (passes : ∀ earlier ∈ before, earlier.stops arguments = false)
    (stops : field.stops arguments = true) :
    update arguments nowMs timebase =
      (.error .integerTooLarge,
        (WrittenField.writeAll arguments.usable nowMs before timebase).2) := by
  rw [update_eq_writeAll, split, writeAll_of_stops passes stops, writeAll_usable]

/-- An update that ends normally has written every field. -/
theorem eq_effects_of_update (written : update arguments nowMs timebase = (.ok (), after)) :
    after = WrittenField.effects arguments nowMs WrittenField.all timebase := by
  rcases passes_or_exists_stops arguments with
    passes | ⟨before, field, later, split, passes, stops⟩
  · rw [update_of_passes passes, update_usable] at written
    cases written
    rfl
  · rw [update_of_stops split passes stops] at written
    cases written

/--
An update ends normally with the effect of its usable values exactly when no field is too large.
Otherwise it ends at the first field that is: those before it are written with their usable
values, and the others are not written.
-/
theorem update_eq_usable_iff (arguments : TimebaseUpdate) (nowMs : Number)
    (timebase : Timebase) :
    (update arguments.usable nowMs timebase).1 = .ok () ∧
      (update arguments nowMs timebase = update arguments.usable nowMs timebase ↔
        ∀ field, WrittenField.stops arguments field = false) ∧
      ∀ fault after, update arguments nowMs timebase = (.error fault, after) ↔
        fault = .integerTooLarge ∧
          ∃ before field later, WrittenField.all = before ++ field :: later ∧
            (∀ earlier ∈ before, earlier.stops arguments = false) ∧
            field.stops arguments = true ∧
            after = (WrittenField.writeAll arguments.usable nowMs before timebase).2 := by
  refine ⟨by rw [update_usable], ⟨?_, update_of_passes⟩, ?_⟩
  · intro same
    rcases passes_or_exists_stops arguments with
      passes | ⟨before, field, later, split, passes, stops⟩
    · exact passes
    · rw [update_of_stops split passes stops, update_usable] at same
      cases same
  · intro fault after
    constructor
    · intro ended
      rcases passes_or_exists_stops arguments with
        passes | ⟨before, field, later, split, passes, stops⟩
      · rw [update_of_passes passes, update_usable] at ended
        cases ended
      · rw [update_of_stops split passes stops] at ended
        cases ended
        exact ⟨rfl, before, field, later, split, passes, stops, rfl⟩
    · rintro ⟨rfl, before, field, later, split, passes, stops, rfl⟩
      exact update_of_stops split passes stops

/-- A latency, an offset that is too large and a source. -/
def farOff : TimebaseUpdate where
  latencyMs := .number 300
  offsetMs := .number (.int (Nat.pow 10 400))
  source := .string "ntp.example"
  freezeEpoch := true

/-- The latency before the offset is written, and the source after it is not. -/
theorem update_farOff :
    update farOff 0 { epochMs := 0 } =
        (.error .integerTooLarge, { epochMs := 0, latencyMs := 300 }) ∧
      update farOff.usable 0 { epochMs := 0 } =
        (.ok (), { epochMs := 0, latencyMs := 300, source := "ntp.example" }) := by
  have stops : WrittenField.offset.stops farOff = true := by decide +kernel
  have passes : ∀ earlier ∈ [WrittenField.latency], earlier.stops farOff = false := by
    decide +kernel
  have latency : (WrittenField.writeAll farOff.usable 0 [.latency] { epochMs := 0 }).2 =
      { epochMs := 0, latencyMs := 300 } := by decide +kernel
  have whole : WrittenField.effects farOff 0 WrittenField.all { epochMs := 0 } =
      { epochMs := 0, latencyMs := 300, source := "ntp.example" } := by decide +kernel
  rw [update_of_stops rfl passes stops, update_usable, latency, whole]
  exact ⟨rfl, rfl⟩

end Update

end Timebase

end Clock

end TestSignal
