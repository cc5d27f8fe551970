import TestSignal.Proofs.Clock.Update
import TestSignal.Proofs.Text

namespace TestSignal

/-!
# What updates keep

The clock's lines are computed from the numbers of the timebase, and its source is shown.
An update may be asked for with any values, and an integer that is too large to be judged
ends it with some of its fields written.  Whatever happens, the timebase stays sound: each
field is judged before it is written, so the property is kept by every step of an update
and needs no account of how far the update came.

The one number that is not judged is the present time.  The timebase trusts its clock, and
takes what it shows in seconds as milliseconds.  So the present time must be finite in
milliseconds; that it is finite in seconds is not enough.
-/

/-- What is not dropped stays in a trimmed text. -/
theorem Text.mem_trimBy {drop : Char → Bool} {c : Char} {text : List Char} (member : c ∈ text)
    (stays : drop c = false) : c ∈ trimBy drop text := by
  have kept : ∀ {chars : List Char}, c ∈ chars → c ∈ chars.dropWhile drop := by
    intro chars inChars
    induction chars with
    | nil => exact inChars
    | cons first rest ih =>
        rcases List.mem_cons.mp inChars with rfl | later
        · rw [List.dropWhile_cons_of_neg (by rw [stays]; exact Bool.false_ne_true)]
          exact List.mem_cons_self
        · rw [List.dropWhile_cons]
          split
          · exact ih later
          · exact inChars
  exact List.mem_reverse.mpr (kept (List.mem_reverse.mpr (kept member)))

theorem Text.trim_ne_empty {text : String} (ink : hasInk text = true) : trim text ≠ "" := by
  rcases List.any_eq_true.mp ink with ⟨c, member, seen⟩
  have stays : c ∈ (trim text).toList := by
    rw [trim, String.toList_ofList]
    exact mem_trimBy member ((Bool.not_eq_true' _).mp seen)
  intro empty
  rw [empty] at stays
  exact absurd stays List.not_mem_nil

namespace Clock

namespace Timebase

/-! ## Steps that keep a property -/

/-- A step that keeps a property of the timebase, also when it ends in a fault. -/
def Keeps {α : Type} (holds : Timebase → Prop) (step : ExceptT Fault (StateM Timebase) α) : Prop :=
  ∀ timebase, holds timebase → holds (step timebase).2

namespace Keeps

variable {α β : Type} {holds : Timebase → Prop}

theorem pure (value : α) : Keeps holds (Pure.pure value) := fun _ held => held

theorem change {write : Timebase → Timebase}
    (kept : ∀ timebase, holds timebase → holds (write timebase)) : Keeps holds (change write) :=
  kept

theorem bind {first : ExceptT Fault (StateM Timebase) α}
    {next : α → ExceptT Fault (StateM Timebase) β} (start : Keeps holds first)
    (rest : ∀ value, Keeps holds (next value)) : Keeps holds (first >>= next) := by
  intro timebase held
  have between := start timebase held
  rw [Outcome.bind_run]
  split
  · rename_i value after same
    rw [same] at between
    exact rest value after between
  · rename_i fault after same
    rw [same] at between
    exact between

end Keeps

/-- What an update finds to be a finite number is a number of the value, and finite. -/
theorem finiteNumber?_eq_some {value : Value} {number : Number}
    (found : finiteNumber? value = .ok (some number)) :
    value = .number number ∧ number.isFinite = .ok true := by
  cases value with
  | number given =>
      rcases Outcome.bind_ok.mp found with ⟨finite, tested, same⟩
      cases finite with
      | false => cases Outcome.pure_ok.mp same
      | true =>
          cases Outcome.pure_ok.mp same
          exact ⟨rfl, tested⟩
  | null | bool _ | string _ | list _ | object _ => cases found

/-- After a value is judged, what follows meets no number or a finite one. -/
theorem Keeps.judge {α : Type} {holds : Timebase → Prop} {value : Value}
    {next : Option Number → ExceptT Fault (StateM Timebase) α} (none : Keeps holds (next none))
    (some : ∀ number, value = .number number → number.isFinite = .ok true →
      Keeps holds (next (some number))) : Keeps holds (judge value >>= next) := by
  intro timebase held
  have judged : Timebase.judge value timebase = (finiteNumber? value, timebase) := rfl
  rw [Outcome.bind_run, judged]
  cases found : finiteNumber? value with
  | error fault => exact held
  | ok result =>
      cases result with
      | none => exact none timebase held
      | some number =>
          rcases finiteNumber?_eq_some found with ⟨same, finite⟩
          exact some number same finite timebase held

/-! ## What an update writes -/

/-- A property that every write of an update keeps, each behind the test that it is made
behind.  This is all that an update can do to a timebase. -/
structure KeptByWrites (holds : Timebase → Prop) (arguments : TimebaseUpdate) (nowMs : Number) :
    Prop where
  latency : ∀ number, number.isFinite = .ok true → (0 : Number).le number = true →
    ∀ timebase, holds timebase → holds { timebase with latencyMs := number }
  offset : ∀ number, number.isFinite = .ok true →
    ∀ timebase, holds timebase → holds { timebase with offsetMs := number }
  uncertainty : ∀ number : Option Number, (∀ x ∈ number, x.isFinite = .ok true) →
    ∀ timebase, holds timebase → holds { timebase with uncertaintyMs := number }
  source : ∀ text, Text.hasInk text = true →
    ∀ timebase, holds timebase → holds { timebase with source := Text.trim text }
  lastSync : ∀ number : Option Number, (∀ x ∈ number, x.isFinite = .ok true) →
    ∀ timebase, holds timebase → holds { timebase with lastSyncMs := number }
  epoch : ∀ number, arguments.epochMs = .number number → number.isFinite = .ok true →
    ∀ timebase, holds timebase → holds { timebase with epochMs := number }
  present : arguments.freezeEpoch = false →
    ∀ timebase, holds timebase → holds { timebase with epochMs := nowMs }

section Writes

variable {holds : Timebase → Prop} {arguments : TimebaseUpdate} {nowMs : Number}

theorem KeptByWrites.setLatency (kept : KeptByWrites holds arguments nowMs) (value : Value) :
    Keeps holds (setLatency value) := by
  refine Keeps.judge (.pure ()) fun latency _ finite => ?_
  dsimp only
  split
  · rename_i nonnegative
    exact .change (kept.latency latency finite nonnegative)
  · exact .pure ()

theorem KeptByWrites.setOffset (kept : KeptByWrites holds arguments nowMs) (value : Value) :
    Keeps holds (setOffset value) :=
  Keeps.judge (.pure ()) fun offset _ finite => .change (kept.offset offset finite)

theorem KeptByWrites.setSource (kept : KeptByWrites holds arguments nowMs) (value : Value) :
    Keeps holds (setSource value) := by
  cases value with
  | string text =>
      unfold Timebase.setSource
      dsimp only
      split
      · rename_i ink
        exact .change (kept.source text ink)
      · exact .pure ()
  | null | bool _ | number _ | list _ | object _ => exact .pure ()

/-- Both optional numbers are set alike; only the field that is written differs. -/
theorem keeps_setOptional {write : Option Number → Timebase → Timebase}
    (kept : ∀ number : Option Number, (∀ x ∈ number, x.isFinite = .ok true) →
      ∀ timebase, holds timebase → holds (write number timebase)) (value : Option Value) :
    Keeps holds (setOptional write value) := by
  cases value with
  | none => exact .pure ()
  | some given =>
      cases given with
      | null => exact .change (kept none nofun)
      | bool _ | number _ | string _ | list _ | object _ =>
          refine Keeps.judge (.pure ()) fun number _ finite => .change (kept (some number) ?_)
          rintro x ⟨⟩
          exact finite

theorem KeptByWrites.setEpoch (kept : KeptByWrites holds arguments nowMs) :
    Keeps holds (setEpoch arguments.epochMs arguments.freezeEpoch nowMs) := by
  refine Keeps.judge ?_ fun epoch given finite => .change (kept.epoch epoch given finite)
  dsimp only
  split
  · exact .pure ()
  · rename_i thawed
    exact .change (kept.present (Bool.not_eq_true _ |>.mp thawed))

/-- What all writes keep is kept by the update, wherever it ends. -/
theorem KeptByWrites.update (kept : KeptByWrites holds arguments nowMs) :
    Keeps holds (update arguments nowMs) :=
  (kept.setLatency _).bind fun _ => (kept.setOffset _).bind fun _ =>
    (keeps_setOptional kept.uncertainty _).bind fun _ => (kept.setSource _).bind fun _ =>
      (keeps_setOptional kept.lastSync _).bind fun _ => kept.setEpoch

end Writes

/-! ## Sound timebases -/

/-- A timebase that the clock can be computed from and that can be shown.  What counts as a
finite number is left open here. -/
structure Sound (finite : Number → Prop) (timebase : Timebase) : Prop where
  epoch : finite timebase.epochMs
  latency : finite timebase.latencyMs
  latency_nonnegative : (0 : Number).le timebase.latencyMs = true
  offset : finite timebase.offsetMs
  uncertainty : ∀ number ∈ timebase.uncertaintyMs, finite number
  lastSync : ∀ number ∈ timebase.lastSyncMs, finite number
  source_nonempty : timebase.source ≠ ""
  source_trimmed : Text.trim timebase.source = timebase.source

section Sound

variable {finite : Number → Prop} (passes : ∀ number, number.isFinite = .ok true → finite number)

include passes

/-- A timebase starts sound when its epoch and its latency are finite, and the latency is
not negative. -/
theorem sound_start {epochMs latencyMs : Number} (zone : Zone) (epoch : finite epochMs)
    (latency : finite latencyMs) (nonnegative : (0 : Number).le latencyMs = true) :
    Sound finite { epochMs, latencyMs, zone } where
  epoch := epoch
  latency := latency
  latency_nonnegative := nonnegative
  offset := passes _ rfl
  uncertainty := nofun
  lastSync := nofun
  source_nonempty := show systemClock ≠ "" by decide
  source_trimmed := show Text.trim systemClock = systemClock by decide

/-- Every write of an update keeps a timebase sound, if the present time is finite. -/
theorem sound_writes (arguments : TimebaseUpdate) {nowMs : Number} (present : finite nowMs) :
    KeptByWrites (Sound finite) arguments nowMs where
  latency number isFinite nonnegative _ sound :=
    { sound with latency := passes number isFinite, latency_nonnegative := nonnegative }
  offset number isFinite _ sound := { sound with offset := passes number isFinite }
  uncertainty _ areFinite _ sound :=
    { sound with uncertainty := fun x member => passes x (areFinite x member) }
  source text ink _ sound :=
    { sound with
      source_nonempty := Text.trim_ne_empty ink
      source_trimmed := Text.trim_trim text }
  lastSync _ areFinite _ sound :=
    { sound with lastSync := fun x member => passes x (areFinite x member) }
  epoch number _ isFinite _ sound := { sound with epoch := passes number isFinite }
  present _ _ sound := { sound with epoch := present }

end Sound

/-! ## Frozen epochs -/

/-- With the epoch frozen, only a finite number that is given for it can replace it. -/
theorem frozen_writes {arguments : TimebaseUpdate} (frozen : arguments.freezeEpoch = true)
    (notGiven : ∀ number, arguments.epochMs = .number number → number.isFinite ≠ .ok true)
    (nowMs epochMs : Number) :
    KeptByWrites (fun timebase => timebase.epochMs = epochMs) arguments nowMs where
  latency _ _ _ _ same := same
  offset _ _ _ same := same
  uncertainty _ _ _ same := same
  source _ _ _ same := same
  lastSync _ _ _ same := same
  epoch number given isFinite := absurd isFinite (notGiven number given)
  present thawed := absurd (frozen.symm.trans thawed) (by decide)

/-! ## Runs of updates -/

/-- An update that is asked for, and the time that the clock shows then. -/
structure Call where
  arguments : TimebaseUpdate
  seconds : Number
  nowMs : Number
  shown : seconds.mul 1000 = .ok nowMs

/-- Whatever the clock shows, an update can be asked for then. -/
theorem exists_call (arguments : TimebaseUpdate) (seconds : Number) :
    ∃ call : Call, call.arguments = arguments ∧ call.seconds = seconds := by
  cases seconds with
  | int whole => exact ⟨⟨arguments, _, _, rfl⟩, rfl, rfl⟩
  | float x =>
      rcases Number.exists_toBinary64_nat 1000 (by decide) with ⟨thousand, converted, _⟩
      exact ⟨⟨arguments, _, _, Number.float_mul x converted⟩, rfl, rfl⟩

/-- The timebase after some updates, each of which may have ended in a fault. -/
def after (timebase : Timebase) (calls : List Call) : Timebase :=
  calls.foldl (fun timebase call => (update call.arguments call.nowMs timebase).2) timebase

/-- A run of updates keeps a timebase sound when every present time is finite. -/
theorem sound_after {finite : Number → Prop}
    (passes : ∀ number, number.isFinite = .ok true → finite number) {calls : List Call}
    (clock : ∀ call ∈ calls, finite call.nowMs) {timebase : Timebase}
    (sound : Sound finite timebase) : Sound finite (after timebase calls) := by
  induction calls generalizing timebase with
  | nil => exact sound
  | cons call rest ih =>
      rcases List.forall_mem_cons.mp clock with ⟨present, later⟩
      exact ih later ((sound_writes passes call.arguments present).update timebase sound)

/-- A timebase that is started with a finite epoch and a finite latency, not negative, is
sound after any updates, as long as the clock shows a finite count of milliseconds at each of
them.  What is called finite may be any class of numbers with those that pass the test of an
update, such as these alone, or every integer with them.  And an update that freezes the
epoch and gives no finite number for it leaves the epoch as it is. -/
theorem sound_updates {finite : Number → Prop}
    (passes : ∀ number, number.isFinite = .ok true → finite number) {epochMs latencyMs : Number}
    (zone : Zone) (epoch : finite epochMs) (latency : finite latencyMs)
    (nonnegative : (0 : Number).le latencyMs = true) {calls : List Call}
    (clock : ∀ call ∈ calls, finite call.nowMs) :
    Sound finite (after { epochMs, latencyMs, zone } calls) ∧
      ∀ (call : Call) (timebase : Timebase), call.arguments.freezeEpoch = true →
        (∀ number, call.arguments.epochMs = .number number → number.isFinite ≠ .ok true) →
          (update call.arguments call.nowMs timebase).2.epochMs = timebase.epochMs := by
  constructor
  · exact sound_after passes clock (sound_start passes zone epoch latency nonnegative)
  · intro call timebase frozen notGiven
    exact (frozen_writes frozen notGiven call.nowMs timebase.epochMs).update timebase rfl

/-- An update with values that no field can take. -/
def unusableCall : Call where
  arguments :=
    { latencyMs := .int (-5), offsetMs := .number (.float .nan)
      source := .string "  ", uncertaintyMs := some (.bool true) }
  seconds := 1700000100
  nowMs := 1700000100000
  shown := rfl

/-- A frozen update that an integer beyond judging ends when its source is written. -/
def endedCall : Call where
  arguments :=
    { source := .string " ntp.example ", timestampMs := some (.int (.ofNat (Nat.pow 10 400)))
      freezeEpoch := true }
  seconds := 1700000101
  nowMs := 1700000101000
  shown := rfl

theorem sound_updates_showcase :
    (0 : Number).isFinite = .ok true ∧ (200 : Number).isFinite = .ok true ∧
      (0 : Number).le 200 = true ∧
      (∀ call ∈ [unusableCall, endedCall], call.nowMs.isFinite = .ok true) ∧
      Sound (fun number => number.isFinite = .ok true)
        (after { epochMs := 0, latencyMs := 200 } [unusableCall, endedCall]) ∧
      (update endedCall.arguments endedCall.nowMs { epochMs := 7 }).2.epochMs = 7 := by
  have epoch : (0 : Number).isFinite = .ok true := by decide +kernel
  have latency : (200 : Number).isFinite = .ok true := by decide +kernel
  have nonnegative : (0 : Number).le 200 = true := by decide +kernel
  have clock : ∀ call ∈ [unusableCall, endedCall], call.nowMs.isFinite = .ok true := by
    decide +kernel
  rcases sound_updates (fun _ passes => passes) .utc epoch latency nonnegative clock with
    ⟨sound, keepsEpoch⟩
  exact ⟨epoch, latency, nonnegative, clock, sound, keepsEpoch endedCall _ rfl nofun⟩

/-- A clock that shows a finite time in seconds, and an infinite one in milliseconds. -/
def lateCall : Call where
  arguments := {}
  seconds := .float (Binary64.ofDecimal false 1 306)
  nowMs := .float (.infinite false)
  shown := by decide +kernel

/-- That the clock shows a finite count of seconds does not keep the epoch finite. -/
theorem not_sound_of_finite_seconds :
    ¬∀ (epochMs latencyMs : Number) (zone : Zone) (calls : List Call),
      epochMs.isFinite = .ok true → latencyMs.isFinite = .ok true →
        (0 : Number).le latencyMs = true →
          (∀ call ∈ calls, call.seconds.isFinite = .ok true) →
            Sound (fun number => number.isFinite = .ok true)
              (after { epochMs, latencyMs, zone } calls) := by
  intro always
  have sound := always 0 200 .utc [lateCall] (by decide +kernel) (by decide +kernel)
    (by decide +kernel) (by decide +kernel)
  cases sound.epoch

end Timebase

end Clock

end TestSignal
