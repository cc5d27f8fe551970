import TestSignal.Clock.Timebase
import TestSignal.Proofs.Clock.Timing

namespace TestSignal

namespace Clock

/-!
# Frozen updates

A synchronisation updates the offset, the uncertainty, the source and the time of the last
measurement, and freezes the epoch.  When the numbers are finite and the source is a text
without blanks around it, the four fields become what they are asked to be, and the others
stay.  The time is written last, so one that is not finite leaves the old one beside the new
values of the other three.
-/

namespace Timebase

/-- The fields of a timebase that a synchronisation writes. -/
structure SyncFields where
  source : String
  offsetMs : Number
  uncertaintyMs : Option Number
  lastSyncMs : Option Number
  deriving DecidableEq

def syncFields (timebase : Timebase) : SyncFields where
  source := timebase.source
  offsetMs := timebase.offsetMs
  uncertaintyMs := timebase.uncertaintyMs
  lastSyncMs := timebase.lastSyncMs

/-- The timebase with these fields, and the others as they are. -/
def synced (timebase : Timebase) (fields : SyncFields) : Timebase :=
  { timebase with
    source := fields.source
    offsetMs := fields.offsetMs
    uncertaintyMs := fields.uncertaintyMs
    lastSyncMs := fields.lastSyncMs }

theorem judge_of_finite {number : Number} (finite : number.isFinite = .ok true)
    (timebase : Timebase) :
    judge (.number number) timebase = (.ok (some number), timebase) :=
  congrArg (·, timebase) (finiteNumber?_number finite)

theorem setOffset_of_finite {offset : Number} (finite : offset.isFinite = .ok true)
    (timebase : Timebase) :
    setOffset (.number offset) timebase = (.ok (), { timebase with offsetMs := offset }) :=
  Outcome.bind_of_run_ok (judge_of_finite finite timebase) _

theorem setSource_of_trimmed {source : String} (ink : Text.hasInk source = true)
    (trimmed : Text.trim source = source) (timebase : Timebase) :
    setSource (.string source) timebase = (.ok (), { timebase with source }) := by
  unfold setSource
  dsimp only
  rw [if_pos ink, trimmed]
  rfl

/-- An optional number is cleared or replaced. -/
theorem setOptional_of_finite (write : Option Number → Timebase → Timebase)
    {number : Option Number} (finite : ∀ x ∈ number, x.isFinite = .ok true)
    (timebase : Timebase) :
    setOptional write (some (optionalNumber number)) timebase =
      (.ok (), write number timebase) := by
  cases number with
  | none => rfl
  | some x => exact Outcome.bind_of_run_ok (judge_of_finite (finite x rfl) timebase) _

/-- An optional number is not replaced by one that is not finite, and one that is too large to
be judged ends the update. -/
theorem setOptional_of_not_finite (write : Option Number → Timebase → Timebase) {x : Number}
    (refused : x.isFinite ≠ .ok true) (timebase : Timebase) :
    setOptional write (some (.number x)) timebase = (x.isFinite.map fun _ => (), timebase) := by
  have judged : judge (.number x) timebase = (finiteNumber? (.number x), timebase) := rfl
  unfold setOptional
  cases found : x.isFinite with
  | error fault =>
      have ended : finiteNumber? (.number x) = .error fault := by
        unfold finiteNumber?
        dsimp only
        rw [found]
        rfl
      rw [ended] at judged
      exact Outcome.bind_of_run_error judged _
  | ok finite =>
      cases finite with
      | true => exact absurd found refused
      | false =>
          have none : finiteNumber? (.number x) = .ok none := by
            unfold finiteNumber?
            dsimp only
            rw [found]
            rfl
          rw [none] at judged
          exact Outcome.bind_of_run_ok judged _

/-- The update that asks for these fields and freezes the epoch. -/
def SyncFields.frozenUpdate (fields : SyncFields) : TimebaseUpdate where
  offsetMs := .number fields.offsetMs
  source := .string fields.source
  uncertaintyMs := some (optionalNumber fields.uncertaintyMs)
  timestampMs := some (optionalNumber fields.lastSyncMs)
  freezeEpoch := true

/-- Fields that an update can write, but perhaps for the time: finite numbers, and a source
without blanks around it. -/
structure SyncFields.IsWritableUntimed (fields : SyncFields) : Prop where
  ink : Text.hasInk fields.source = true
  trimmed : Text.trim fields.source = fields.source
  offset : fields.offsetMs.isFinite = .ok true
  uncertainty : ∀ x ∈ fields.uncertaintyMs, x.isFinite = .ok true

structure SyncFields.IsWritable (fields : SyncFields) : Prop extends fields.IsWritableUntimed where
  lastSync : ∀ x ∈ fields.lastSyncMs, x.isFinite = .ok true

/-- A frozen update comes down to its time when the other fields can be written. -/
theorem update_frozen_untimed {fields : SyncFields} (writable : fields.IsWritableUntimed)
    (nowMs : Number) (timebase : Timebase) :
    update fields.frozenUpdate nowMs timebase =
      (setOptional (fun number timebase => { timebase with lastSyncMs := number })
        (some (optionalNumber fields.lastSyncMs)) >>= fun _ => setEpoch .null true nowMs)
        (timebase.synced { fields with lastSyncMs := timebase.lastSyncMs }) := by
  have latency : setLatency .null timebase = (.ok (), timebase) := rfl
  unfold update SyncFields.frozenUpdate
  rw [Outcome.bind_of_run_ok latency,
    Outcome.bind_of_run_ok (setOffset_of_finite writable.offset _),
    Outcome.bind_of_run_ok (setOptional_of_finite _ writable.uncertainty _),
    Outcome.bind_of_run_ok (setSource_of_trimmed writable.ink writable.trimmed _)]
  rfl

/-- A frozen update writes the four fields and nothing else. -/
theorem update_frozen {fields : SyncFields} (writable : fields.IsWritable) (nowMs : Number)
    (timebase : Timebase) :
    update fields.frozenUpdate nowMs timebase = (.ok (), timebase.synced fields) := by
  rw [update_frozen_untimed writable.toIsWritableUntimed,
    Outcome.bind_of_run_ok (setOptional_of_finite _ writable.lastSync _)]
  rfl

/-- A frozen update with a time that cannot be written leaves the old one, and writes the rest. -/
theorem update_frozen_of_not_finite {fields : SyncFields} (writable : fields.IsWritableUntimed)
    {x : Number} (last : fields.lastSyncMs = some x) (refused : x.isFinite ≠ .ok true)
    (nowMs : Number) (timebase : Timebase) :
    update fields.frozenUpdate nowMs timebase =
      (x.isFinite.map fun _ => (),
        timebase.synced { fields with lastSyncMs := timebase.lastSyncMs }) := by
  have kept := setOptional_of_not_finite
    (fun number timebase => { timebase with lastSyncMs := number }) refused
    (timebase.synced { fields with lastSyncMs := timebase.lastSyncMs })
  rw [update_frozen_untimed writable, last]
  cases found : x.isFinite with
  | error fault =>
      rw [found] at kept
      exact Outcome.bind_of_run_error kept _
  | ok finite =>
      rw [found] at kept
      exact Outcome.bind_of_run_ok kept _

end Timebase

end Clock

end TestSignal
