import TestSignal.Proofs.Clock.Update
import TestSignal.Sync

namespace TestSignal

namespace Sync

open Clock (Timebase)
open Clock.Timebase (SyncFields)

/-!
# What a synchronisation does

A synchronisation asks its servers one after the other.  How a query goes depends on the
outside alone: it is passed over if it faults in a way that is tolerated or if its answer
cannot be used, and otherwise it decides.  A measurement is then applied as a whole, and any
other fault ends the synchronisation before it has written anything.  When no query decides,
the timebase goes back to the system clock.

A synchronisation is therefore described by the servers that it passes over and by how the
next one replies.  This does not mention the timebase, so it can be said beforehand.
-/

/-! ## One query -/

abbrev Outcome := Except Fault (Option Sntp.Measurement)

/-- Asks a server at the present time. -/
def reply (clientPath server : String) : HostRun (Option Sntp.Measurement) := do
  let nowMs ← HostRun.nowMs
  Sntp.query clientPath server nowMs

/-- The start of the client for a server. -/
def queryStart (clientPath server : String) : ProgramStart where
  command := [clientPath, server]
  seconds := Sntp.querySeconds

/-- The host after the clock was looked at. -/
def hostLater (host : Host) : Host :=
  match host.laterTimes with
  | [] => host
  | next :: rest => { host with now := next, laterTimes := rest }

theorem now_run (host : Host) : HostRun.now host = (.ok host.now, hostLater host) := by
  unfold HostRun.now hostLater
  cases host.laterTimes <;> rfl

theorem hostLater_started (host : Host) : (hostLater host).started = host.started := by
  unfold hostLater
  cases host.laterTimes <;> rfl

theorem hostLater_logged (host : Host) (log : List LogLine) :
    hostLater { host with log } = { hostLater host with log } := by
  rcases host with ⟨now, laterTimes⟩
  cases laterTimes <;> rfl

/-- The present time can always be told in milliseconds, whatever is logged. -/
theorem exists_nowMs (host : Host) :
    ∃ nowMs, ∀ log, HostRun.nowMs { host with log } =
      (.ok nowMs, { hostLater host with log }) := by
  have product : ∀ seconds : Number, ∃ millis, seconds.mul 1000 = .ok millis := by
    intro seconds
    cases seconds with
    | int whole => exact ⟨_, rfl⟩
    | float x =>
        rcases Number.exists_toBinary64_nat 1000 (by decide) with ⟨thousand, converted, _⟩
        exact ⟨_, Number.float_mul x converted⟩
  rcases product host.now with ⟨millis, multiplied⟩
  refine ⟨millis, fun log => ?_⟩
  refine (HostRun.bind_of_ok (now_run _) _).trans ?_
  rw [hostLater_logged]
  exact HostRun.ofExcept_ok.mpr ⟨multiplied, rfl⟩

theorem start_started (command : List String) (seconds : Nat) (host : Host) :
    (HostRun.start command seconds host).2.started =
      host.started ++ [{ command := command, seconds := seconds }] := by
  rcases host with ⟨now, laterTimes, programs, further⟩
  cases programs with
  | nil => cases further <;> rfl
  | cons ending rest => cases ending <;> rfl

/-- A query looks outside by starting its client, and not again. -/
theorem query_host (clientPath server : String) (nowMs : Number) (host : Host) :
    (Sntp.query clientPath server nowMs host).2 =
      (HostRun.start [clientPath, server] Sntp.querySeconds host).2 := by
  unfold Sntp.query
  rcases started : HostRun.start [clientPath, server] Sntp.querySeconds host with
    ⟨ending, after⟩
  cases ending with
  | error fault => rw [HostRun.bind_of_error started]
  | ok ended =>
      rw [HostRun.bind_of_ok started]
      rcases ended with ⟨code, output⟩
      by_cases failed : code ≠ 0
      · simp only [if_pos failed]
        rfl
      · simp only [if_neg failed]
        cases Sntp.readOutput? output <;> rfl

theorem reply_started (clientPath server : String) (host : Host) :
    (reply clientPath server host).2.started =
      host.started ++ [queryStart clientPath server] := by
  rcases exists_nowMs host with ⟨nowMs, told⟩
  unfold reply
  rw [HostRun.bind_of_ok (told host.log), query_host, start_started, hostLater_started]
  rfl

/-- A measurement is read from what the client writes for the server that was asked. -/
theorem exists_of_reply {clientPath server : String} {host asked : Host}
    {measurement : Sntp.Measurement}
    (replied : reply clientPath server host = (.ok (some measurement), asked)) :
    ∃ nowMs between output seconds dispersion,
      HostRun.start [clientPath, server] Sntp.querySeconds between = (.ok (0, output), asked) ∧
        Sntp.readOutput? output = some (seconds, dispersion) ∧
        measurement =
          { source := server
            offsetMs := Sntp.millis seconds
            dispersionMs := dispersion.map Sntp.millis
            timestampMs := nowMs } := by
  rcases HostRun.bind_ok.mp replied with ⟨nowMs, between, _, queried⟩
  rcases HostRun.bind_ok.mp queried with ⟨⟨code, output⟩, after, started, read⟩
  by_cases failed : code ≠ 0
  · simp only [if_pos failed] at read
    cases read
  · simp only [if_neg failed] at read
    rw [not_not.mp failed] at started
    cases parsed : Sntp.readOutput? output with
    | none =>
        rw [parsed] at read
        cases read
    | some numbers =>
        rw [parsed] at read
        cases read
        exact ⟨nowMs, between, output, numbers.1, numbers.2, started, parsed, rfl⟩

theorem source_of_reply {clientPath server : String} {host asked : Host}
    {measurement : Sntp.Measurement}
    (replied : reply clientPath server host = (.ok (some measurement), asked)) :
    measurement.source = server := by
  rcases exists_of_reply replied with ⟨_, _, _, _, _, _, _, rfl⟩
  rfl

/-! ## Servers that are passed over -/

/-- A query after which the next server is asked. -/
inductive IsPassedOver : Outcome → Prop where
  | unusable : IsPassedOver (.ok none)
  | absorbed {fault : Fault} (tolerated : isTolerated fault = true) :
      IsPassedOver (.error fault)

/-- The line about a server that is passed over. -/
def passedLine (server : String) : Outcome → LogLine
  | .error fault =>
      { level := .warning, source := .sync
        text := "SNTP query to " ++ server ++ " failed: " ++ fault.message }
  | .ok _ =>
      { level := .debug, source := .sync
        text := "SNTP server " ++ server ++ " gave no usable answer" }

def passOver (server : String) (outcome : Outcome) (host : Host) : Host :=
  { host with log := host.log ++ [passedLine server outcome] }

/-- Asking some servers in order, all of which are passed over. -/
inductive PassesOver (clientPath : String) : Host → List String → Host → Prop where
  | nil (host : Host) : PassesOver clientPath host [] host
  | cons {host asked after : Host} {server : String} {rest : List String} {outcome : Outcome}
      (replied : reply clientPath server host = (outcome, asked)) (passed : IsPassedOver outcome)
      (others : PassesOver clientPath (passOver server outcome asked) rest after) :
      PassesOver clientPath host (server :: rest) after

variable {clientPath server : String} {host asked between : Host}

theorem PassesOver.started {passed : List String}
    (passes : PassesOver clientPath host passed between) :
    between.started = host.started ++ passed.map (queryStart clientPath) := by
  induction passes with
  | nil host => rw [List.map_nil, List.append_nil]
  | @cons host asked after server rest outcome replied _ _ inductionHypothesis =>
      have once := reply_started clientPath server host
      rw [replied] at once
      rw [inductionHypothesis]
      change asked.started ++ _ = _
      rw [once, List.map_cons, List.append_assoc]
      rfl

/-! ## One server -/

theorem attempt_of_run {run : HostRun α} {outcome : Except Fault α}
    (made : run host = (outcome, between)) :
    HostRun.attempt run host = (.ok outcome, between) := by
  unfold HostRun.attempt
  rw [made]

theorem onHost_of_run {run : HostRun α} {outcome : Except Fault α}
    (made : run host = (outcome, between)) (timebase : Timebase) :
    Run.onHost run (timebase, host) = (outcome, (timebase, between)) := by
  unfold Run.onHost
  dsimp only
  rw [made]

theorem onTimebase_of_step {step : Timebase.Step} {timebase written : Timebase}
    (done : step timebase = (.ok (), written)) (host : Host) :
    Run.onTimebase step (timebase, host) = (.ok (), (written, host)) := by
  unfold Run.onTimebase
  dsimp only
  rw [done]

/-- A server is asked, and a fault that is tolerated is handed on as a value. -/
theorem ask_of_reply {outcome : Outcome}
    (replied : reply clientPath server host = (outcome, asked)) (timebase : Timebase) :
    ask clientPath server (timebase, host) =
      (match outcome with
        | .ok answer => .ok (.ok answer)
        | .error fault => if isTolerated fault then .ok (.error fault) else .error fault,
        (timebase, asked)) := by
  rcases exists_nowMs host with ⟨nowMs, told⟩
  unfold reply at replied
  rw [HostRun.bind_of_ok (told host.log)] at replied
  refine onHost_of_run ?_ timebase
  rw [HostRun.bind_of_ok (told host.log), HostRun.bind_of_ok (attempt_of_run replied)]
  cases outcome with
  | ok answer => rfl
  | error fault =>
      by_cases tolerated : isTolerated fault = true
      · simp only [if_pos tolerated]
        rfl
      · simp only [if_neg tolerated]
        rfl

/-- Logs that a server is passed over. -/
def logPassed (server : String) (outcome : Outcome) : Run Unit :=
  let line := passedLine server outcome
  Run.onHost (HostRun.logLine line.level line.source line.text)

theorem logPassed_run (server : String) (outcome : Outcome) (timebase : Timebase) (host : Host) :
    logPassed server outcome (timebase, host) =
      (.ok (), (timebase, passOver server outcome host)) := rfl

/-- After a server that is passed over, the rest of the list is asked. -/
theorem refreshFrom_of_passedOver {outcome : Outcome}
    (replied : reply clientPath server host = (outcome, asked)) (passed : IsPassedOver outcome)
    (rest : List String) (timebase : Timebase) :
    refreshFrom clientPath (server :: rest) (timebase, host) =
      refreshFrom clientPath rest (timebase, passOver server outcome asked) := by
  have answered := ask_of_reply replied timebase
  rw [refreshFrom]
  cases passed with
  | unusable =>
      have logged := logPassed_run server (.ok none) timebase asked
      rw [Outcome.bind_of_run_ok answered]
      exact Outcome.bind_of_run_ok logged _
  | @absorbed fault tolerated =>
      have logged := logPassed_run server (.error fault) timebase asked
      dsimp only at answered
      rw [if_pos tolerated] at answered
      rw [Outcome.bind_of_run_ok answered]
      exact Outcome.bind_of_run_ok logged _

theorem refreshFrom_of_passesOver {passed : List String}
    (passes : PassesOver clientPath host passed between) (rest : List String)
    (timebase : Timebase) :
    refreshFrom clientPath (passed ++ rest) (timebase, host) =
      refreshFrom clientPath rest (timebase, between) := by
  induction passes with
  | nil host => rfl
  | cons replied passed _ inductionHypothesis =>
      rw [List.cons_append, refreshFrom_of_passedOver replied passed, inductionHypothesis]

/-! ## The deciding server -/

/-- The fields that a measurement gives. -/
def measuredFields (measurement : Sntp.Measurement) : SyncFields where
  source := measurement.source
  offsetMs := measurement.offsetMs
  uncertaintyMs := measurement.dispersionMs
  lastSyncMs := some measurement.timestampMs

/-- The fields of the system clock at a time. -/
def systemFields (nowMs : Number) : SyncFields where
  source := Clock.systemClock
  offsetMs := .float Binary64.zero
  uncertaintyMs := none
  lastSyncMs := some nowMs

/-- A measurement whose numbers are finite. -/
structure IsFinite (measurement : Sntp.Measurement) : Prop where
  offset : measurement.offsetMs.isFinite = .ok true
  dispersion : ∀ x ∈ measurement.dispersionMs, x.isFinite = .ok true
  timestamp : measurement.timestampMs.isFinite = .ok true

/-- A server name with something in it and no blanks around it. -/
structure IsName (server : String) : Prop where
  ink : Text.hasInk server = true
  trimmed : Text.trim server = server

theorem isWritable_measuredFields {measurement : Sntp.Measurement}
    (finite : IsFinite measurement) (named : IsName measurement.source) :
    (measuredFields measurement).IsWritable where
  ink := named.ink
  trimmed := named.trimmed
  offset := finite.offset
  uncertainty := finite.dispersion
  lastSync := fun _ same => Option.mem_some.mp same ▸ finite.timestamp

theorem isWritableUntimed_systemFields (nowMs : Number) :
    (systemFields nowMs).IsWritableUntimed where
  ink := show Text.hasInk Clock.systemClock = true by decide
  trimmed := show Text.trim Clock.systemClock = Clock.systemClock by decide
  offset := rfl
  uncertainty := fun _ absent => nomatch absent

theorem isWritable_systemFields {nowMs : Number} (finite : nowMs.isFinite = .ok true) :
    (systemFields nowMs).IsWritable where
  toIsWritableUntimed := isWritableUntimed_systemFields nowMs
  lastSync := fun _ same => Option.mem_some.mp same ▸ finite

/-- A measurement is applied as a whole. -/
theorem refreshFrom_of_measured {measurement : Sntp.Measurement}
    (replied : reply clientPath server host = (.ok (some measurement), asked))
    (finite : IsFinite measurement) (named : IsName server) (rest : List String)
    (timebase : Timebase) :
    ∃ after, refreshFrom clientPath (server :: rest) (timebase, host) =
      (.ok (some measurement), (timebase.synced (measuredFields measurement), after)) ∧
        after.started = asked.started := by
  have writable : (measuredFields measurement).IsWritable :=
    isWritable_measuredFields finite (source_of_reply replied ▸ named)
  have updated := onTimebase_of_step
    (Timebase.update_frozen writable measurement.timestampMs timebase) asked
  rcases Number.exists_finite finite.offset with ⟨offset, converted, _⟩
  have signed : ∃ text, signedText measurement.offsetMs = .ok text :=
    Outcome.exists_bind converted ⟨_, rfl⟩
  rcases signed with ⟨text, signed⟩
  let told : Host := { asked with log := asked.log ++
    [{ level := .info, source := .sync
       text := "Clock synced via " ++ server ++ ": offset " ++ text ++ "ms" }] }
  have logged : Run.onHost (do
      let offset ← HostRun.ofExcept (signedText measurement.offsetMs)
      HostRun.logLine .info .sync ("Clock synced via " ++ server ++ ": offset " ++ offset ++ "ms"))
      (timebase.synced (measuredFields measurement), asked) =
        (.ok (), (timebase.synced (measuredFields measurement), told)) :=
    onHost_of_run (HostRun.bind_of_ok (HostRun.ofExcept_ok.mpr ⟨signed, rfl⟩) _) _
  have applied : applyMeasurement server measurement (timebase, asked) =
      (.ok (), (timebase.synced (measuredFields measurement), told)) :=
    (Outcome.bind_of_run_ok updated _).trans logged
  refine ⟨told, ?_, rfl⟩
  rw [refreshFrom, Outcome.bind_of_run_ok (ask_of_reply replied timebase)]
  exact Outcome.bind_of_run_ok applied _

/-- A fault that is not tolerated ends the refresh before anything is written. -/
theorem refreshFrom_of_raised {fault : Fault}
    (replied : reply clientPath server host = (.error fault, asked))
    (grave : isTolerated fault = false) (rest : List String) (timebase : Timebase) :
    refreshFrom clientPath (server :: rest) (timebase, host) =
      (.error fault, (timebase, asked)) := by
  have answered := ask_of_reply replied timebase
  dsimp only at answered
  rw [if_neg (by simp [grave])] at answered
  rw [refreshFrom]
  exact Outcome.bind_of_run_error answered _

/-- When no server is left, the timebase is updated at the present time, whatever that is. -/
theorem refreshFrom_nil_of_update {nowMs : Number} {looked : Host}
    (told : HostRun.nowMs host = (.ok nowMs, looked)) {timebase written : Timebase}
    {outcome : Except Fault Unit}
    (updated : Timebase.update (systemUpdate nowMs) nowMs timebase = (outcome, written)) :
    ∃ after, refreshFrom clientPath [] (timebase, host) =
      (outcome.map fun _ => none, (written, after)) ∧ after.started = host.started := by
  rcases exists_nowMs host with ⟨millis, anyLog⟩
  cases (anyLog host.log).symm.trans told
  let warned : List LogLine := host.log ++
    [{ level := .warning, source := .sync
       text := "All SNTP servers failed, using " ++ Clock.systemClock }]
  have logged : Run.onHost (HostRun.logLine .warning .sync
      ("All SNTP servers failed, using " ++ Clock.systemClock)) (timebase, host) =
        (.ok (), (timebase, { host with log := warned })) := rfl
  have timed := onHost_of_run (anyLog warned) timebase
  have applied : Run.onTimebase (Timebase.update (systemUpdate nowMs) nowMs)
      (timebase, { hostLater host with log := warned }) =
        (outcome, (written, { hostLater host with log := warned })) := by
    unfold Run.onTimebase
    dsimp only
    rw [updated]
  have fellBack : fallBack (timebase, host) =
      (outcome, (written, { hostLater host with log := warned })) :=
    (Outcome.bind_of_run_ok logged _).trans ((Outcome.bind_of_run_ok timed _).trans applied)
  refine ⟨{ hostLater host with log := warned }, ?_, hostLater_started host⟩
  cases outcome with
  | ok _ => exact Outcome.bind_of_run_ok fellBack _
  | error fault => exact Outcome.bind_of_run_error fellBack _

/-- When no server is left, the timebase goes back to the system clock. -/
theorem refreshFrom_nil {nowMs : Number} {looked : Host}
    (told : HostRun.nowMs host = (.ok nowMs, looked)) (finite : nowMs.isFinite = .ok true)
    (timebase : Timebase) :
    ∃ after, refreshFrom clientPath [] (timebase, host) =
      (.ok none, (timebase.synced (systemFields nowMs), after)) ∧
        after.started = host.started :=
  refreshFrom_nil_of_update told
    (Timebase.update_frozen (isWritable_systemFields finite) nowMs timebase)

/-- A time that is not finite is not written, and one that is too large to be judged ends the
synchronisation behind the other fields. -/
theorem refreshFrom_nil_of_not_finite {nowMs : Number} {looked : Host}
    (told : HostRun.nowMs host = (.ok nowMs, looked)) (refused : nowMs.isFinite ≠ .ok true)
    (timebase : Timebase) :
    ∃ after, refreshFrom clientPath [] (timebase, host) =
      (nowMs.isFinite.map fun _ => none,
        (timebase.synced { systemFields nowMs with lastSyncMs := timebase.lastSyncMs }, after)) ∧
        after.started = host.started := by
  have updated := Timebase.update_frozen_of_not_finite (isWritableUntimed_systemFields nowMs) rfl
    refused nowMs timebase
  rcases refreshFrom_nil_of_update told updated with ⟨after, refreshed, started⟩
  refine ⟨after, ?_, started⟩
  rw [refreshed]
  cases nowMs.isFinite <;> rfl

end Sync

end TestSignal
