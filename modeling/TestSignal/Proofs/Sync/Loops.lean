import Mathlib.Data.List.GetD
import TestSignal.Proofs.Outcome
import TestSignal.Sync.Worker

namespace TestSignal

namespace Sync

/-!
# The loops of a worker

A controller starts and stops a worker while its loops go on, so a run is any sequence of their
moves.  A stop is two of them: it raises the flag, and it returns when the loop has finished or
when the wait for it is over.

While the flag is up no loop gets past its test, so a loop makes at most the one pass that it
has tested for.  If a stop returns because the loop has finished, the loop makes none at all,
whatever is started later; and as long as every stop returns so, there is one loop at a time.

A stop that returns because the wait is over promises less.  The next start takes the flag
down for every loop, and then the forgotten loop goes on beside the new one.
-/

/-! ## Points of a loop -/

/-- Where a loop is after its next step. -/
def LoopPoint.next (stopRequested : Bool) : LoopPoint → LoopPoint
  | .testing => if stopRequested then .finished else .passing
  | .passing => .waiting
  | .waiting => .testing
  | .finished => .finished

namespace Worker

variable {worker : Worker} {index : Nat}

theorem lt_length_of_loopPoint (unfinished : worker.loopPoint index ≠ .finished) :
    index < worker.loops.length := by
  apply Nat.lt_of_not_le
  intro beyond
  exact unfinished (List.getD_eq_default _ _ beyond)

theorem loopPoint_setLoop_self (started : index < worker.loops.length) (point : LoopPoint) :
    (worker.setLoop index point).loopPoint index = point := by
  unfold loopPoint setLoop
  rw [List.getD_eq_getElem?_getD, List.getElem?_set_self started]
  rfl

theorem loopPoint_setLoop_of_ne {other : Nat} (different : other ≠ index) (point : LoopPoint) :
    (worker.setLoop index point).loopPoint other = worker.loopPoint other := by
  unfold loopPoint setLoop
  rw [List.getD_eq_getElem?_getD, List.getD_eq_getElem?_getD,
    List.getElem?_set_ne (Ne.symm different)]

/-- A step of a loop moves it to its next point. -/
theorem advance_eq (worker : Worker) (index : Nat) :
    worker.advance index = worker ∧ worker.loopPoint index = .finished ∨
      worker.advance index =
        worker.setLoop index ((worker.loopPoint index).next worker.stopRequested) := by
  unfold advance
  cases worker.loopPoint index with
  | finished => exact .inl ⟨rfl, rfl⟩
  | testing | passing | waiting => exact .inr rfl

theorem loopPoint_advance_self (worker : Worker) (index : Nat) :
    (worker.advance index).loopPoint index =
      (worker.loopPoint index).next worker.stopRequested := by
  by_cases finished : worker.loopPoint index = .finished
  · unfold advance
    rw [finished]
    exact finished
  · rcases worker.advance_eq index with ⟨_, impossible⟩ | moved
    · exact absurd impossible finished
    · rw [moved, loopPoint_setLoop_self (lt_length_of_loopPoint finished)]

theorem loopPoint_advance_of_ne {other : Nat} (different : other ≠ index) :
    (worker.advance index).loopPoint other = worker.loopPoint other := by
  rcases worker.advance_eq index with ⟨same, _⟩ | moved
  · rw [same]
  · rw [moved, loopPoint_setLoop_of_ne different]

/-- A step of a loop changes nothing else. -/
theorem advance_rest (worker : Worker) (index : Nat) :
    (worker.advance index).stopRequested = worker.stopRequested ∧
      (worker.advance index).current = worker.current ∧
      (worker.advance index).loops.length = worker.loops.length := by
  rcases worker.advance_eq index with ⟨same, _⟩ | moved
  · rw [same]
    exact ⟨rfl, rfl, rfl⟩
  · rw [moved]
    exact ⟨rfl, rfl, List.length_set⟩

theorem running_of_current (known : worker.current = some index) :
    worker.running = (worker.loopPoint index != .finished) := by
  unfold running
  rw [known]

/-- A start leaves the loops that are there where they are. -/
theorem loopPoint_start (started : index < worker.loops.length) :
    worker.start.loopPoint index = worker.loopPoint index := by
  unfold start
  split
  · rfl
  · unfold loopPoint
    rw [List.getD_append _ _ _ _ started]

/-! ## Runs -/

/-- What can happen next. -/
inductive Move where
  | start
  /-- A stop raises the flag. -/
  | requestStop
  /-- A stop returns. -/
  | forget
  /-- A loop takes a step. -/
  | advance (index : Nat)
  deriving DecidableEq

def move (worker : Worker) : Move → Worker
  | .start => worker.start
  | .requestStop => worker.requestStop
  | .forget => worker.forget
  | .advance index => worker.advance index

def run (worker : Worker) (moves : List Move) : Worker := moves.foldl move worker

theorem run_append (worker : Worker) (moves more : List Move) :
    worker.run (moves ++ more) = (worker.run moves).run more :=
  List.foldl_append

/-- The passes that a loop makes in a run. -/
def passes (index : Nat) : Worker → List Move → Nat
  | _, [] => 0
  | worker, move :: rest =>
      (if move = .advance index && worker.isPassing index then 1 else 0) +
        passes index (worker.move move) rest

theorem passes_append (worker : Worker) (moves more : List Move) :
    passes index worker (moves ++ more) =
      passes index worker moves + passes index (worker.run moves) more := by
  induction moves generalizing worker with
  | nil => exact (Nat.zero_add _).symm
  | cons move rest inductionHypothesis =>
      rw [List.cons_append, passes, passes, inductionHypothesis, Nat.add_assoc]
      rfl

theorem length_le_length_move (worker : Worker) (move : Move) :
    worker.loops.length ≤ (worker.move move).loops.length := by
  cases move with
  | start =>
      change _ ≤ worker.start.loops.length
      unfold start
      split
      · exact Nat.le_refl _
      · rw [List.length_append]
        exact Nat.le_add_right _ _
  | requestStop | forget => exact Nat.le_refl _
  | advance loop => exact Nat.le_of_eq (worker.advance_rest loop).2.2.symm

theorem length_le_length_run (worker : Worker) (moves : List Move) :
    worker.loops.length ≤ (worker.run moves).loops.length := by
  induction moves generalizing worker with
  | nil => exact Nat.le_refl _
  | cons move rest inductionHypothesis =>
      exact Nat.le_trans (worker.length_le_length_move move) (inductionHypothesis _)

/-! ## Finished loops -/

theorem finished_advance (finished : worker.loopPoint index = .finished) (loop : Nat) :
    (worker.advance loop).loopPoint index = .finished := by
  by_cases same : index = loop
  · rw [← same, loopPoint_advance_self, finished]
    rfl
  · rw [loopPoint_advance_of_ne same, finished]

theorem finished_move (started : index < worker.loops.length)
    (finished : worker.loopPoint index = .finished) (move : Move) :
    (worker.move move).loopPoint index = .finished := by
  cases move with
  | start => exact (loopPoint_start started).trans finished
  | requestStop | forget => exact finished
  | advance loop => exact finished_advance finished loop

/-- A loop that has finished makes no pass any more. -/
theorem passes_of_finished (started : index < worker.loops.length)
    (finished : worker.loopPoint index = .finished) (moves : List Move) :
    passes index worker moves = 0 := by
  induction moves generalizing worker with
  | nil => rfl
  | cons move rest inductionHypothesis =>
      have idle : worker.isPassing index = false := by
        unfold isPassing
        rw [finished]
        rfl
      rw [passes, idle, Bool.and_false, if_neg Bool.false_ne_true,
        inductionHypothesis (Nat.lt_of_lt_of_le started (worker.length_le_length_move move))
          (finished_move started finished move)]

/-! ## While the flag is up -/

/-- The passes that a loop can still make while the flag is up. -/
def due (worker : Worker) (index : Nat) : Nat := if worker.isPassing index then 1 else 0

/-- No move but a start lowers the flag. -/
theorem stopRequested_move (requested : worker.stopRequested = true) {move : Move}
    (keeps : move ≠ .start) : (worker.move move).stopRequested = true := by
  cases move with
  | start => exact absurd rfl keeps
  | requestStop => rfl
  | forget => exact requested
  | advance loop => exact (worker.advance_rest loop).1.trans requested

/-- Each pass is one that was due, and no other becomes due. -/
theorem due_move (requested : worker.stopRequested = true) {move : Move} (keeps : move ≠ .start) :
    (if move = .advance index && worker.isPassing index then 1 else 0) +
      (worker.move move).due index = worker.due index := by
  cases move with
  | start => exact absurd rfl keeps
  | requestStop | forget => exact Nat.zero_add _
  | advance loop =>
      change _ + (worker.advance loop).due index = _
      unfold due isPassing
      by_cases same : index = loop
      · rw [← same, loopPoint_advance_self, requested]
        simp only [decide_true, Bool.true_and]
        cases worker.loopPoint index <;> rfl
      · have other : Move.advance loop ≠ .advance index := fun equal =>
          same (Move.advance.inj equal).symm
        rw [loopPoint_advance_of_ne same, decide_eq_false other, Bool.false_and,
          if_neg Bool.false_ne_true, Nat.zero_add]

theorem stopRequested_run (requested : worker.stopRequested = true) {moves : List Move}
    (keeps : .start ∉ moves) : (worker.run moves).stopRequested = true := by
  induction moves generalizing worker with
  | nil => exact requested
  | cons move rest inductionHypothesis =>
      rw [List.mem_cons, not_or] at keeps
      exact inductionHypothesis (stopRequested_move requested (Ne.symm keeps.1)) keeps.2

/-- Until the next start a loop makes no pass but one that was due. -/
theorem passes_le_due (requested : worker.stopRequested = true) {moves : List Move}
    (keeps : .start ∉ moves) : passes index worker moves ≤ worker.due index := by
  induction moves generalizing worker with
  | nil => exact Nat.zero_le _
  | cons move rest inductionHypothesis =>
      rw [List.mem_cons, not_or] at keeps
      have still := stopRequested_move requested (Ne.symm keeps.1)
      rw [← due_move requested (Ne.symm keeps.1), passes]
      exact Nat.add_le_add_left (inductionHypothesis still keeps.2) _

/-! ## One loop at a time -/

/-- No loop is at work but the one that the controller knows. -/
def OneLoop (worker : Worker) : Prop :=
  ∀ index, worker.loopPoint index ≠ .finished → worker.current = some index

/-- Every stop of a run that returns does so because the loop has finished. -/
def Joins : Worker → List Move → Prop
  | _, [] => True
  | worker, move :: rest =>
      (move = .forget → worker.running = false) ∧ Joins (worker.move move) rest

theorem OneLoop.finished_of_not_running (one : worker.OneLoop)
    (idle : worker.running = false) (index : Nat) : worker.loopPoint index = .finished := by
  apply Decidable.byContradiction
  intro unfinished
  rw [running_of_current (one index unfinished)] at idle
  exact unfinished (by simpa using idle)

theorem oneLoop_move (one : worker.OneLoop) {move : Move}
    (joins : move = .forget → worker.running = false) : (worker.move move).OneLoop := by
  intro index unfinished
  cases move with
  | start =>
      change worker.start.loopPoint index ≠ .finished at unfinished
      change worker.start.current = some index
      by_cases busy : worker.running = true
      · unfold start at unfinished ⊢
        rw [if_pos busy] at unfinished ⊢
        exact one index unfinished
      · have idle := one.finished_of_not_running (Bool.eq_false_iff.mpr busy) index
        have added := lt_length_of_loopPoint unfinished
        have fresh : ¬index < worker.loops.length := fun started =>
          unfinished ((loopPoint_start started).trans idle)
        unfold start at added ⊢
        rw [if_neg busy] at added ⊢
        simp only [List.length_append, List.length_singleton] at added
        exact congrArg some (by omega)
  | requestStop => exact one index unfinished
  | forget => exact absurd (one.finished_of_not_running (joins rfl) index) unfinished
  | advance loop =>
      change (worker.advance loop).loopPoint index ≠ .finished at unfinished
      change (worker.advance loop).current = some index
      rw [(worker.advance_rest loop).2.1]
      exact one index fun finished => unfinished (finished_advance finished loop)

theorem oneLoop_run (one : worker.OneLoop) {moves : List Move} (joins : worker.Joins moves) :
    (worker.run moves).OneLoop := by
  induction moves generalizing worker with
  | nil => exact one
  | cons move rest inductionHypothesis =>
      exact inductionHypothesis (oneLoop_move one joins.1) joins.2

theorem oneLoop_empty : OneLoop {} :=
  fun _ unfinished => absurd rfl unfinished

theorem joins_append {moves more : List Move} (joins : worker.Joins (moves ++ more)) :
    worker.Joins moves ∧ (worker.run moves).Joins more := by
  induction moves generalizing worker with
  | nil => exact ⟨trivial, joins⟩
  | cons move rest inductionHypothesis =>
      rcases inductionHypothesis joins.2 with ⟨here, there⟩
      exact ⟨⟨joins.1, here⟩, there⟩

/-! ## After a stop -/

/-- A stop that begins after some moves, and returns after others. -/
def stopMoves (before between : List Move) : List Move :=
  before ++ .requestStop :: (between ++ [.forget])

/--
After a stop has returned, and until the next start, a loop that was started before makes at
most the pass that it has tested for.  If all stops up to this one have returned because the
loop had finished, it makes no pass at all, whatever comes later.
-/
theorem passes_after_stop {before between : List Move} {index : Nat}
    (started : index < (run {} before).loops.length) (meanwhile : .start ∉ between)
    (later : List Move) :
    (.start ∉ later →
      passes index (run {} (stopMoves before between)) later ≤
        (run {} (stopMoves before between)).due index) ∧
      (Joins {} (stopMoves before between) →
        passes index (run {} (stopMoves before between)) later = 0) := by
  have parts : stopMoves before between = (before ++ .requestStop :: between) ++ [.forget] := by
    unfold stopMoves
    rw [List.append_assoc, List.cons_append]
  constructor
  · intro keeps
    apply passes_le_due ?_ keeps
    have raised : ((run {} before).requestStop.run between).stopRequested = true :=
      stopRequested_run rfl meanwhile
    rw [parts, run_append, run_append]
    exact raised
  · intro joins
    rw [parts] at joins ⊢
    rcases joins_append joins with ⟨whole, returns⟩
    have finished := (oneLoop_run oneLoop_empty whole).finished_of_not_running (returns.1 rfl) index
    have known : index < (run {} (before ++ .requestStop :: between)).loops.length := by
      rw [run_append]
      exact Nat.lt_of_lt_of_le started (length_le_length_run _ _)
    rw [run_append]
    -- Returning changes none of the loops.
    change passes index (run {} (before ++ .requestStop :: between)).forget later = 0
    apply passes_of_finished
    · exact known
    · exact finished

/-- With stops that all return because the loop has finished, one loop at most is at work. -/
theorem eq_of_unfinished {moves : List Move} (joins : Joins {} moves) {first second : Nat}
    (atWork : (run {} moves).loopPoint first ≠ .finished)
    (alsoAtWork : (run {} moves).loopPoint second ≠ .finished) : first = second := by
  have one := oneLoop_run oneLoop_empty joins
  exact Option.some.inj ((one first atWork).symm.trans (one second alsoAtWork))

/-- A stop whose wait is over while the loop is in its pass, and a start after it. -/
def restarting : List Move := stopMoves [.start, .advance 0] [] ++ [.start]

/-- As many steps of both loops as lie between two passes. -/
def turn : List Move :=
  [.advance 0, .advance 1, .advance 0, .advance 1, .advance 0, .advance 1]

/-- Without such stops, two loops can go on side by side for as long as one likes. -/
theorem passes_of_restarting (rounds : Nat) :
    passes 0 (run {} restarting) (List.replicate rounds turn).flatten = rounds ∧
      passes 1 (run {} restarting) (List.replicate rounds turn).flatten = rounds := by
  have again : (run {} restarting).run turn = run {} restarting := by decide
  have once : passes 0 (run {} restarting) turn = 1 ∧
      passes 1 (run {} restarting) turn = 1 := by decide
  induction rounds with
  | zero => exact ⟨rfl, rfl⟩
  | succ rounds inductionHypothesis =>
      rw [List.replicate_succ, List.flatten_cons, passes_append, passes_append, again, once.1,
        once.2, inductionHypothesis.1, inductionHypothesis.2, Nat.add_comm]
      exact ⟨rfl, rfl⟩

/-! ## Loops in the foreground -/

/-- A worker with one loop at most, and that one waits. -/
structure Settled (worker : Worker) : Prop where
  one : worker.OneLoop
  waits : ∀ index ∈ worker.current,
    worker.loopPoint index = .waiting ∨ worker.loopPoint index = .finished

theorem settled_of_finished (finished : ∀ index, worker.loopPoint index = .finished) :
    worker.Settled where
  one index unfinished := absurd (finished index) unfinished
  waits index _ := .inr (finished index)

end Worker

open Worker

variable (settings : Settings) {worker : Worker}

/-- A pass never faults. -/
theorem exists_pass (state : Clock.Timebase × Host) :
    ∃ after, pass settings state = (.ok (), after) := by
  unfold pass
  split
  · exact ⟨_, rfl⟩
  · exact ⟨_, rfl⟩

theorem exists_stepLoop (worker : Worker) (index : Nat) (state : Clock.Timebase × Host) :
    ∃ after, stepLoop settings worker index state = (.ok (worker.advance index), after) := by
  unfold stepLoop
  split
  · rcases exists_pass settings state with ⟨after, passed⟩
    exact ⟨after, Outcome.bind_of_run_ok passed _⟩
  · exact ⟨state, rfl⟩

/-- Steps of a loop are a run, whatever their passes do outside. -/
theorem exists_stepLoopTimes (worker : Worker) (index count : Nat)
    (state : Clock.Timebase × Host) :
    ∃ after, stepLoopTimes settings index count worker state =
      (.ok (worker.run (List.replicate count (.advance index))), after) := by
  induction count generalizing worker state with
  | zero => exact ⟨state, rfl⟩
  | succ count inductionHypothesis =>
      rcases exists_stepLoop settings worker index state with ⟨between, stepped⟩
      rcases inductionHypothesis (worker.advance index) between with ⟨after, rest⟩
      exact ⟨after, (Outcome.bind_of_run_ok stepped _).trans rest⟩

/-- A worker that is started in the foreground has one loop, which waits after its pass. -/
theorem settled_startAndPass (settled : worker.Settled) (state : Clock.Timebase × Host) :
    ∃ started after, startAndPass settings worker state = (.ok started, after) ∧
      started.Settled ∧ started.running = true := by
  unfold startAndPass
  by_cases busy : worker.running = true
  · rw [if_pos busy]
    exact ⟨worker, state, rfl, settled, busy⟩
  · rw [if_neg busy]
    rcases exists_stepLoopTimes settings worker.start worker.loops.length stepsPerPass state with
      ⟨after, stepped⟩
    refine ⟨_, after, stepped, ?_⟩
    change ((worker.start.advance worker.loops.length).advance worker.loops.length).Settled ∧ _
    have joins : worker.Joins [.start, .advance worker.loops.length,
        .advance worker.loops.length] := ⟨nofun, nofun, nofun, trivial⟩
    have one : ((worker.start.advance worker.loops.length).advance worker.loops.length).OneLoop :=
      oneLoop_run settled.one joins
    have begun : worker.start =
        { stopRequested := false, loops := worker.loops ++ [.testing]
          current := some worker.loops.length } := if_neg busy
    have testing : worker.start.loopPoint worker.loops.length = .testing := by
      rw [begun]
      unfold loopPoint
      rw [List.getD_append_right _ _ _ _ (Nat.le_refl _), Nat.sub_self]
      rfl
    have waiting : ((worker.start.advance worker.loops.length).advance
        worker.loops.length).loopPoint worker.loops.length = .waiting := by
      rw [loopPoint_advance_self, loopPoint_advance_self, (advance_rest _ _).1, testing, begun]
      rfl
    have current : ((worker.start.advance worker.loops.length).advance
        worker.loops.length).current = some worker.loops.length := by
      rw [(advance_rest _ _).2.1, (advance_rest _ _).2.1, begun]
    refine ⟨{ one, waits := ?_ }, ?_⟩
    · intro index known
      rw [current] at known
      cases known
      exact .inl waiting
    · rw [show Worker.run _ _ = (worker.start.advance _).advance _ from rfl,
        running_of_current current, waiting]
      rfl

/-- A worker that is stopped in the foreground has no loop that is at work. -/
theorem settled_stopAndJoin (settled : worker.Settled) (state : Clock.Timebase × Host) :
    ∃ stopped after, stopAndJoin settings worker state = (.ok stopped, after) ∧
      stopped.Settled ∧ ∀ index, stopped.loopPoint index = .finished := by
  have whole : ∃ stopped after, stopAndJoin settings worker state = (.ok stopped, after) ∧
      ∀ index, stopped.loopPoint index = .finished := by
    unfold stopAndJoin
    cases known : worker.current with
    | none =>
        refine ⟨_, state, rfl, ?_⟩
        apply settled.one.finished_of_not_running
        unfold running
        rw [known]
    | some index =>
        rcases exists_stepLoopTimes settings worker.requestStop index stepsPerPass state with
          ⟨after, stepped⟩
        refine ⟨_, after, Outcome.bind_of_run_ok stepped _, ?_⟩
        change ∀ other, ((worker.requestStop.advance index).advance index).loopPoint other = _
        have joins : worker.Joins [.requestStop, .advance index, .advance index] :=
          ⟨nofun, nofun, nofun, trivial⟩
        have one : ((worker.requestStop.advance index).advance index).OneLoop :=
          oneLoop_run settled.one joins
        apply one.finished_of_not_running
        have finished : ((worker.requestStop.advance index).advance index).loopPoint index =
            .finished := by
          rw [loopPoint_advance_self, loopPoint_advance_self, (advance_rest _ _).1]
          change LoopPoint.next true (LoopPoint.next true (worker.loopPoint index)) = _
          rcases settled.waits index known with waits | finished
          · rw [waits]
            rfl
          · rw [finished]
            rfl
        have current : ((worker.requestStop.advance index).advance index).current =
            some index := by
          rw [(advance_rest _ _).2.1, (advance_rest _ _).2.1]
          exact known
        rw [running_of_current current, finished]
        rfl
  rcases whole with ⟨stopped, after, done, finished⟩
  exact ⟨stopped, after, done, settled_of_finished finished, finished⟩

end Sync

end TestSignal
