import Mathlib.Control.Monad.Basic
import TestSignal.Proofs.Sync.Refresh

namespace TestSignal

namespace Sync

open Clock (Timebase)
open Clock.Timebase (SyncFields)

/-!
# Synchronisations that follow one another

A round is one synchronisation, with the settings and the outside as they are at that time.
It reaches a server that decides, or it runs out of servers; which of these happens is fixed
by the round alone, whatever the timebase is.  So is what the round writes: all the fields of
one measurement, those of the system clock, or nothing.

A clock reading is taken in seconds and kept in milliseconds.  A reading that is finite in
seconds may not be so in milliseconds; then the time of the last synchronisation stays what it
was, while the other fields become those of the system clock.

Over any number of rounds the fields that a synchronisation does not write never move.  Those
that it writes are those of a single round, as long as the times are finite in milliseconds.
-/

structure Round where
  settings : Settings
  host : Host

namespace Round

/-- The refresh of a timebase in a round. -/
def refresh (round : Round) (timebase : Timebase) : Outcome × Timebase × Host :=
  Sync.refresh round.settings (timebase, round.host)

/-- The starts of the client for some servers, in order. -/
def queryStarts (round : Round) (servers : List String) : List ProgramStart :=
  servers.map (queryStart round.settings.sntpPath)

/-! ## What happens in a round -/

/-- The first servers are passed over, and the query of the next one ends so. -/
structure Reaches (round : Round) (passed : List String) (server : String) (outcome : Outcome)
    (asked : Host) : Prop where
  listed : ∃ rest, round.settings.sntpServers = passed ++ server :: rest
  replied : ∃ between, PassesOver round.settings.sntpPath round.host passed between ∧
    reply round.settings.sntpPath server between = (outcome, asked)

/-- All servers are passed over, and then it is this time. -/
def RunsOut (round : Round) (nowMs : Number) : Prop :=
  ∃ between after, PassesOver round.settings.sntpPath round.host round.settings.sntpServers
    between ∧ HostRun.nowMs between = (.ok nowMs, after)

/-- A fault that is not tolerated is reached. -/
def Raises (round : Round) (fault : Fault) : Prop :=
  isTolerated fault = false ∧
    ∃ passed server asked, round.Reaches passed server (.error fault) asked

/-- A measurement is reached. -/
def Measures (round : Round) (measurement : Sntp.Measurement) : Prop :=
  ∃ passed server asked, round.Reaches passed server (.ok (some measurement)) asked

/-- A query that is not passed over gives a measurement or a fault that is not tolerated. -/
theorem decides_or_passedOver (outcome : Outcome) :
    IsPassedOver outcome ∨ (∃ measurement, outcome = .ok (some measurement)) ∨
      ∃ fault, outcome = .error fault ∧ isTolerated fault = false := by
  cases outcome with
  | ok answer =>
      cases answer with
      | none => exact .inl .unusable
      | some measurement => exact .inr (.inl ⟨measurement, rfl⟩)
  | error fault =>
      cases tolerated : isTolerated fault with
      | true => exact .inl (.absorbed tolerated)
      | false => exact .inr (.inr ⟨fault, rfl, tolerated⟩)

/-- Some server decides, or all are passed over. -/
theorem exists_decision (clientPath : String) (servers : List String) (host : Host) :
    (∃ passed server rest between, servers = passed ++ server :: rest ∧
      PassesOver clientPath host passed between ∧
      ¬IsPassedOver (reply clientPath server between).1) ∨
    ∃ between, PassesOver clientPath host servers between := by
  induction servers generalizing host with
  | nil => exact .inr ⟨host, .nil host⟩
  | cons server rest inductionHypothesis =>
      by_cases isPassed : IsPassedOver (reply clientPath server host).1
      · rcases inductionHypothesis (passOver server _ (reply clientPath server host).2) with
          ⟨passed, decider, more, between, rfl, passes, decides⟩ | ⟨between, passes⟩
        · exact .inl ⟨server :: passed, decider, more, between, rfl, .cons rfl isPassed passes,
            decides⟩
        · exact .inr ⟨between, .cons rfl isPassed passes⟩
      · exact .inl ⟨[], server, rest, host, rfl, .nil host, isPassed⟩

/-- One of three things happens in a round. -/
theorem measures_or_raises_or_runsOut (round : Round) :
    (∃ measurement, round.Measures measurement) ∨ (∃ fault, round.Raises fault) ∨
      ∃ nowMs, round.RunsOut nowMs := by
  rcases exists_decision round.settings.sntpPath round.settings.sntpServers round.host with
    ⟨passed, server, rest, between, listed, passes, decides⟩ | ⟨between, passes⟩
  · rcases replied : reply round.settings.sntpPath server between with ⟨outcome, asked⟩
    have reaches : round.Reaches passed server outcome asked :=
      { listed := ⟨rest, listed⟩, replied := ⟨between, passes, replied⟩ }
    rw [replied] at decides
    rcases decides_or_passedOver outcome with isPassed | ⟨measurement, rfl⟩ | ⟨fault, rfl, grave⟩
    · exact absurd isPassed decides
    · exact .inl ⟨measurement, passed, server, asked, reaches⟩
    · exact .inr (.inl ⟨fault, grave, passed, server, asked, reaches⟩)
  · rcases exists_nowMs between with ⟨nowMs, told⟩
    exact .inr (.inr ⟨nowMs, between, _, passes, told between.log⟩)

/-! ## What a round does to the timebase -/

/-- The servers have names, and measurements have finite numbers. -/
structure IsSound (round : Round) : Prop where
  named : ∀ server ∈ round.settings.sntpServers, IsName server
  measured : ∀ measurement, round.Measures measurement → IsFinite measurement

/-- The time at which the round runs out of servers, if it does, is finite in milliseconds. -/
def IsTimed (round : Round) : Prop :=
  ∀ nowMs, round.RunsOut nowMs → nowMs.isFinite = .ok true

/-- What a round does to a timebase. -/
structure Follows (round : Round) (timebase : Timebase) : Prop where
  decided : (∃ measurement, round.Measures measurement) ∨ (∃ fault, round.Raises fault) ∨
    ∃ nowMs, round.RunsOut nowMs
  /-- The first measurement is returned and applied, and no other server is asked. -/
  measured : ∀ passed server measurement asked,
    round.Reaches passed server (.ok (some measurement)) asked →
      ∃ after, round.refresh timebase =
        (.ok (some measurement), timebase.synced (measuredFields measurement), after) ∧
          after.started = round.host.started ++ round.queryStarts (passed ++ [server])
  /-- A fault that is not tolerated is passed on, and nothing is written. -/
  raised : ∀ passed server fault asked, isTolerated fault = false →
    round.Reaches passed server (.error fault) asked →
      ∃ after, round.refresh timebase = (.error fault, timebase, after) ∧
        after.started = round.host.started ++ round.queryStarts (passed ++ [server])
  /-- Without a decision the timebase goes back to the system clock at the present time. -/
  ranOut : ∀ nowMs, round.RunsOut nowMs → nowMs.isFinite = .ok true →
    ∃ after, round.refresh timebase =
      (.ok none, timebase.synced (systemFields nowMs), after) ∧
        after.started = round.host.started ++ round.queryStarts round.settings.sntpServers
  /-- A present time that is not finite in milliseconds is not written, and if it is an integer
  too large to be judged, the round ends in that fault. -/
  overran : ∀ nowMs, round.RunsOut nowMs → nowMs.isFinite ≠ .ok true →
    ∃ after, round.refresh timebase =
      (nowMs.isFinite.map fun _ => none,
        timebase.synced { systemFields nowMs with lastSyncMs := timebase.lastSyncMs }, after) ∧
        after.started = round.host.started ++ round.queryStarts round.settings.sntpServers

theorem Reaches.started {round : Round} {passed : List String} {server : String}
    {outcome : Outcome} {asked : Host} (reaches : round.Reaches passed server outcome asked) :
    asked.started = round.host.started ++ round.queryStarts (passed ++ [server]) := by
  rcases reaches.replied with ⟨between, passes, replied⟩
  have once := reply_started round.settings.sntpPath server between
  rw [replied, passes.started] at once
  rw [queryStarts, List.map_append, ← List.append_assoc]
  exact once

/-- When all servers are passed over, no server is left to be asked. -/
theorem refresh_of_passesOver {round : Round} {between : Host}
    (passes : PassesOver round.settings.sntpPath round.host round.settings.sntpServers between)
    (timebase : Timebase) :
    round.refresh timebase = refreshFrom round.settings.sntpPath [] (timebase, between) := by
  have passed := refreshFrom_of_passesOver passes [] timebase
  rw [List.append_nil] at passed
  exact passed

theorem IsSound.follows {round : Round} (sound : round.IsSound) (timebase : Timebase) :
    round.Follows timebase where
  decided := round.measures_or_raises_or_runsOut
  measured := by
    intro passed server measurement asked reaches
    have finite := sound.measured measurement ⟨passed, server, asked, reaches⟩
    rcases reaches.listed with ⟨rest, listed⟩
    rcases reaches.replied with ⟨between, passes, replied⟩
    have named := sound.named server (listed ▸ List.mem_append_right passed List.mem_cons_self)
    rcases refreshFrom_of_measured replied finite named rest timebase with
      ⟨after, refreshed, started⟩
    refine ⟨after, ?_, started.trans reaches.started⟩
    unfold refresh Sync.refresh
    rw [listed, refreshFrom_of_passesOver passes, refreshed]
  raised := by
    intro passed server fault asked grave reaches
    rcases reaches.listed with ⟨rest, listed⟩
    rcases reaches.replied with ⟨between, passes, replied⟩
    refine ⟨asked, ?_, reaches.started⟩
    unfold refresh Sync.refresh
    rw [listed, refreshFrom_of_passesOver passes, refreshFrom_of_raised replied grave]
  ranOut := by
    rintro nowMs ⟨between, looked, passes, told⟩ finite
    rcases refreshFrom_nil told finite timebase with ⟨after, refreshed, started⟩
    exact ⟨after, (refresh_of_passesOver passes timebase).trans refreshed,
      started.trans passes.started⟩
  overran := by
    rintro nowMs ⟨between, looked, passes, told⟩ refused
    rcases refreshFrom_nil_of_not_finite told refused timebase with ⟨after, refreshed, started⟩
    exact ⟨after, (refresh_of_passesOver passes timebase).trans refreshed,
      started.trans passes.started⟩

/-! ## Many rounds -/

/-- The fields that a round writes: those of its measurement, or of the system clock. -/
def Writes (round : Round) (fields : SyncFields) : Prop :=
  (∃ measurement, round.Measures measurement ∧ fields = measuredFields measurement) ∨
    ∃ nowMs, round.RunsOut nowMs ∧ fields = systemFields nowMs

/-- A round writes all of its fields, or it ends in a fault and writes none. -/
theorem IsSound.writes_or_raises {round : Round} (sound : round.IsSound) (timed : round.IsTimed)
    (timebase : Timebase) :
    (∃ fields, round.Writes fields ∧ (round.refresh timebase).2.1 = timebase.synced fields) ∨
      (∃ fault, round.Raises fault) ∧ (round.refresh timebase).2.1 = timebase := by
  have follows := sound.follows timebase
  rcases follows.decided with ⟨measurement, measures⟩ | ⟨fault, raises⟩ | ⟨nowMs, runsOut⟩
  · rcases measures with ⟨passed, server, asked, reaches⟩
    rcases follows.measured passed server measurement asked reaches with ⟨after, refreshed, _⟩
    refine .inl ⟨_, .inl ⟨measurement, ⟨passed, server, asked, reaches⟩, rfl⟩, ?_⟩
    rw [refreshed]
  · rcases raises with ⟨grave, passed, server, asked, reaches⟩
    rcases follows.raised passed server fault asked grave reaches with ⟨after, refreshed, _⟩
    refine .inr ⟨⟨fault, grave, passed, server, asked, reaches⟩, ?_⟩
    rw [refreshed]
  · rcases follows.ranOut nowMs runsOut (timed nowMs runsOut) with ⟨after, refreshed, _⟩
    refine .inl ⟨_, .inr ⟨nowMs, runsOut, rfl⟩, ?_⟩
    rw [refreshed]

/-- Whatever a round comes to, it writes no field but those of a synchronisation. -/
theorem IsSound.exists_synced {round : Round} (sound : round.IsSound) (timebase : Timebase) :
    ∃ fields, (round.refresh timebase).2.1 = timebase.synced fields := by
  have follows := sound.follows timebase
  rcases follows.decided with ⟨measurement, measures⟩ | ⟨fault, raises⟩ | ⟨nowMs, runsOut⟩
  · rcases measures with ⟨passed, server, asked, reaches⟩
    rcases follows.measured passed server measurement asked reaches with ⟨after, refreshed, _⟩
    exact ⟨_, congrArg (·.2.1) refreshed⟩
  · rcases raises with ⟨grave, passed, server, asked, reaches⟩
    rcases follows.raised passed server fault asked grave reaches with ⟨after, refreshed, _⟩
    exact ⟨timebase.syncFields, congrArg (·.2.1) refreshed⟩
  · by_cases finite : nowMs.isFinite = .ok true
    · rcases follows.ranOut nowMs runsOut finite with ⟨after, refreshed, _⟩
      exact ⟨_, congrArg (·.2.1) refreshed⟩
    · rcases follows.overran nowMs runsOut finite with ⟨after, refreshed, _⟩
      exact ⟨_, congrArg (·.2.1) refreshed⟩

end Round

/-- The timebase after rounds that follow one another. -/
def afterRounds (timebase : Timebase) (rounds : List Round) : Timebase :=
  rounds.foldl (fun timebase round => (round.refresh timebase).2.1) timebase

/-- What a synchronisation does not write is what it was. -/
theorem afterRounds_eq {rounds : List Round} (sound : ∀ round ∈ rounds, round.IsSound)
    (timebase : Timebase) : afterRounds timebase rounds =
      timebase.synced (afterRounds timebase rounds).syncFields := by
  induction rounds generalizing timebase with
  | nil => rfl
  | cons round rest inductionHypothesis =>
      rcases List.forall_mem_cons.mp sound with ⟨first, others⟩
      rcases first.exists_synced timebase with ⟨fields, refreshed⟩
      have step : afterRounds timebase (round :: rest) =
          afterRounds (round.refresh timebase).2.1 rest := rfl
      have later := inductionHypothesis others (timebase.synced fields)
      rw [step, refreshed]
      exact later

/-- Where the fields of a synchronisation come from after some rounds: they were written by the
last round without a fault, or never. -/
def HoldsOneRound (timebase : Timebase) (rounds : List Round) : Prop :=
  (afterRounds timebase rounds = timebase ∧ ∀ round ∈ rounds, ∃ fault, round.Raises fault) ∨
    ∃ before round later fields, rounds = before ++ round :: later ∧ round.Writes fields ∧
      (∀ other ∈ later, ∃ fault, other.Raises fault) ∧
      (afterRounds timebase rounds).syncFields = fields

theorem holdsOneRound {rounds : List Round} (sound : ∀ round ∈ rounds, round.IsSound)
    (timed : ∀ round ∈ rounds, round.IsTimed) (timebase : Timebase) :
    HoldsOneRound timebase rounds := by
  induction rounds generalizing timebase with
  | nil => exact .inl ⟨rfl, List.forall_mem_nil _⟩
  | cons round rest inductionHypothesis =>
      rcases List.forall_mem_cons.mp sound with ⟨first, others⟩
      rcases List.forall_mem_cons.mp timed with ⟨firstTimed, othersTimed⟩
      have step : afterRounds timebase (round :: rest) =
          afterRounds (round.refresh timebase).2.1 rest := rfl
      unfold HoldsOneRound
      rw [step]
      rcases first.writes_or_raises firstTimed timebase with
        ⟨fields, writes, refreshed⟩ | ⟨raises, refreshed⟩
      · right
        rw [refreshed]
        rcases inductionHypothesis others othersTimed (timebase.synced fields) with
          ⟨same, raises⟩ | ⟨before, writer, later, given, rfl, laterWrites, raises, last⟩
        · exact ⟨[], round, rest, fields, rfl, writes, raises, by rw [same]; rfl⟩
        · exact ⟨round :: before, writer, later, given, rfl, laterWrites, raises, last⟩
      · rw [refreshed]
        rcases inductionHypothesis others othersTimed timebase with
          ⟨same, more⟩ | ⟨before, writer, later, given, rfl, writes, more, last⟩
        · exact .inl ⟨same, List.forall_mem_cons.mpr ⟨raises, more⟩⟩
        · exact .inr ⟨round :: before, writer, later, given, rfl, writes, more, last⟩

/--
Every round does what its queries decide, and the epoch, the latency and the zone are never
moved.  Over rounds whose times are finite in milliseconds the timebase holds what one round
wrote.
-/
theorem rounds_follow {rounds : List Round} (sound : ∀ round ∈ rounds, round.IsSound)
    (timebase : Timebase) :
    (∀ round ∈ rounds, ∀ current, round.Follows current) ∧
      ((∀ round ∈ rounds, round.IsTimed) → HoldsOneRound timebase rounds) ∧
      (afterRounds timebase rounds).epochMs = timebase.epochMs ∧
      (afterRounds timebase rounds).latencyMs = timebase.latencyMs ∧
      (afterRounds timebase rounds).zone = timebase.zone := by
  refine ⟨fun round member => (sound round member).follows,
    fun timed => holdsOneRound sound timed timebase, ?_⟩
  rw [afterRounds_eq sound timebase]
  exact ⟨rfl, rfl, rfl⟩

/-! ## Rounds with one server -/

instance (measurement : Sntp.Measurement) : Decidable (IsFinite measurement) :=
  decidable_of_iff
    (measurement.offsetMs.isFinite = .ok true ∧
      (measurement.dispersionMs.all fun x => decide (x.isFinite = .ok true)) = true ∧
      measurement.timestampMs.isFinite = .ok true) <| by
    rw [Option.all_eq_true]
    constructor
    · rintro ⟨offset, dispersion, timestamp⟩
      exact { offset, dispersion := fun x same => of_decide_eq_true (dispersion x same), timestamp }
    · rintro ⟨offset, dispersion, timestamp⟩
      exact ⟨offset, fun x same => decide_eq_true (dispersion x same), timestamp⟩

/-- With one server, the numbers of the measurement can be looked at. -/
theorem Round.isSound_of_single {round : Round} {server : String}
    (only : round.settings.sntpServers = [server]) (named : IsName server) {outcome : Outcome}
    {asked : Host} (replied : reply round.settings.sntpPath server round.host = (outcome, asked))
    (measured : (outcome.toOption.join.all fun measurement => decide (IsFinite measurement)) =
      true) : round.IsSound where
  named := by
    intro name member
    rw [only, List.mem_singleton] at member
    rw [member]
    exact named
  measured := by
    rintro measurement ⟨passed, name, reached, ⟨rest, listed⟩, between, passes, reply⟩
    rw [only] at listed
    cases passed with
    | nil =>
        cases passes
        cases listed
        cases replied.symm.trans reply
        exact of_decide_eq_true measured
    | cons first more => simp at listed

/-- With one server, the time of a round that runs out is that behind its query. -/
theorem Round.RunsOut.told_of_single {round : Round} {server : String}
    (only : round.settings.sntpServers = [server]) {outcome : Outcome} {asked : Host}
    (replied : reply round.settings.sntpPath server round.host = (outcome, asked))
    {nowMs : Number} (runsOut : round.RunsOut nowMs) :
    ∃ after, HostRun.nowMs (passOver server outcome asked) = (.ok nowMs, after) := by
  rcases runsOut with ⟨between, after, passes, told⟩
  rw [only] at passes
  cases passes with
  | cons reply passed others =>
      cases others
      cases replied.symm.trans reply
      exact ⟨after, told⟩

theorem Round.isTimed_of_single {round : Round} {server : String}
    (only : round.settings.sntpServers = [server]) {outcome : Outcome} {asked : Host}
    (replied : reply round.settings.sntpPath server round.host = (outcome, asked))
    (timed : ((HostRun.nowMs (passOver server outcome asked)).1.toOption.all fun nowMs =>
      decide (nowMs.isFinite = .ok true)) = true) : round.IsTimed := by
  intro nowMs runsOut
  rcases runsOut.told_of_single only replied with ⟨after, told⟩
  rw [told] at timed
  exact of_decide_eq_true timed

def showcaseSettings : Settings where
  picturesDir := Path.ofText "/pictures"
  uploadsDir := Path.ofText "/uploads"
  sntpServers := ["time.example"]

/-- A server that answers, and later the same server out of reach. -/
def showcaseRounds : List Round :=
  [ { settings := showcaseSettings
      host := { Host.idle with programs := [.exited 0 "+0.025 +/- 0.010 time.example"] } },
    { settings := showcaseSettings
      host := { Host.idle with now := 60 } } ]

theorem isName_showcase : IsName "time.example" where
  ink := by decide
  trimmed := by decide

theorem rounds_follow_showcase :
    (∀ round ∈ showcaseRounds, round.IsSound) ∧ (∀ round ∈ showcaseRounds, round.IsTimed) ∧
      HoldsOneRound { epochMs := 0 } showcaseRounds := by
  have sound : ∀ round ∈ showcaseRounds, round.IsSound := by
    unfold showcaseRounds
    rw [List.forall_mem_cons, List.forall_mem_singleton]
    constructor
    · exact Round.isSound_of_single rfl isName_showcase rfl (by decide +kernel)
    · exact Round.isSound_of_single rfl isName_showcase rfl (by decide +kernel)
  have timed : ∀ round ∈ showcaseRounds, round.IsTimed := by
    unfold showcaseRounds
    rw [List.forall_mem_cons, List.forall_mem_singleton]
    constructor
    · exact Round.isTimed_of_single rfl rfl (by decide +kernel)
    · exact Round.isTimed_of_single rfl rfl (by decide +kernel)
  exact ⟨sound, timed, (rounds_follow sound { epochMs := 0 }).2.1 timed⟩

/-- The server is out of reach, and the clock shows a finite time in seconds that is infinite in
milliseconds. -/
def lateRound : Round where
  settings := showcaseSettings
  host := { Host.idle with now := .float (Binary64.ofDecimal false 1 306) }

/-- That the clock shows a finite count of seconds does not make it the time of the last
synchronisation when no server answers. -/
theorem not_timed_of_finite_seconds :
    ¬∀ (round : Round) (timebase : Timebase), round.IsSound →
      round.host.now.isFinite = .ok true → round.host.laterTimes = [] →
        ∀ nowMs, round.RunsOut nowMs →
          (round.refresh timebase).2.1.lastSyncMs = some nowMs := by
  intro always
  let fault := Fault.timedOut [lateRound.settings.sntpPath, "time.example"] Sntp.querySeconds
  have timedOut : (reply lateRound.settings.sntpPath "time.example" lateRound.host).1 =
      .error fault := by decide +kernel
  rcases replied : reply lateRound.settings.sntpPath "time.example" lateRound.host with
    ⟨outcome, asked⟩
  rw [replied] at timedOut
  cases timedOut
  have sound : lateRound.IsSound := Round.isSound_of_single rfl isName_showcase replied rfl
  have tolerated : isTolerated fault = true := by decide
  rcases exists_nowMs (passOver "time.example" (.error fault) asked) with ⟨nowMs, told⟩
  have runsOut : lateRound.RunsOut nowMs :=
    ⟨_, _, .cons replied (.absorbed tolerated) (.nil _), told _⟩
  have last := always lateRound { epochMs := 0 } sound (by decide +kernel) rfl nowMs runsOut
  have kept : (lateRound.refresh { epochMs := 0 }).2.1.lastSyncMs = none := by decide +kernel
  rw [kept] at last
  cases last

end Sync

end TestSignal
