import TestSignal.Sync

namespace TestSignal

namespace Sync

/-!
# The synchronising worker

The worker synchronises at once and then again after every interval, until it is
told to stop.  Its loop has three atomic steps: it looks at the stop flag, makes
one pass, and waits on the flag for the interval.  A fault of a pass is logged
and ends the pass only.

A controller starts and stops the worker.  The flag belongs to the worker and not
to a loop: starting clears it, stopping raises it.  A stop may wait for the loop
only for a limited time, and forgets it when the time is over, so more than one
loop can exist.
-/

/-- One pass of the loop; its fault, if any, is logged. -/
def pass (settings : Settings) : Run Unit := fun state =>
  match refresh settings state with
  | (.ok _, after) => (.ok (), after)
  | (.error _, after) =>
      Run.onHost (HostRun.logLine .error .sync "Clock sync pass failed") after

/-- Passes one after the other, with the interval that is waited after each. -/
def passTimes (settings : Settings) : Nat → Run (List Number)
  | 0 => pure []
  | count + 1 => do
      pass settings
      let later ← passTimes settings count
      return settings.syncInterval :: later

/-! ## The loops of a worker -/

/-- What a loop does next. -/
inductive LoopPoint where
  /-- It looks at the stop flag. -/
  | testing
  /-- It makes a pass. -/
  | passing
  /-- It waits for the interval or the flag. -/
  | waiting
  | finished
  deriving DecidableEq

structure Worker where
  stopRequested : Bool := false
  /-- The loops in the order in which they were started. -/
  loops : List LoopPoint := []
  /-- The loop that the controller knows, by its place. -/
  current : Option Nat := none
  deriving DecidableEq

namespace Worker

/-- Where a loop is; a loop that was never started is finished. -/
def loopPoint (worker : Worker) (index : Nat) : LoopPoint :=
  worker.loops.getD index .finished

/-- Whether the loop that the controller knows is still at work. -/
def running (worker : Worker) : Bool :=
  match worker.current with
  | some index => worker.loopPoint index != .finished
  | none => false

/-- Starts a loop unless one is running. -/
def start (worker : Worker) : Worker :=
  if worker.running then worker
  else
    { stopRequested := false
      loops := worker.loops ++ [.testing]
      current := some worker.loops.length }

/-- The first half of a stop: raises the flag. -/
def requestStop (worker : Worker) : Worker := { worker with stopRequested := true }

/-- The second half of a stop: the loop has finished, or the wait for it is over. -/
def forget (worker : Worker) : Worker := { worker with current := none }

def setLoop (worker : Worker) (index : Nat) (point : LoopPoint) : Worker :=
  { worker with loops := worker.loops.set index point }

/-- The next step of a loop, apart from what its pass does outside the worker. -/
def advance (worker : Worker) (index : Nat) : Worker :=
  match worker.loopPoint index with
  | .testing => worker.setLoop index (if worker.stopRequested then .finished else .passing)
  | .passing => worker.setLoop index .waiting
  | .waiting => worker.setLoop index .testing
  | .finished => worker

/-- Whether the next step of a loop is a pass. -/
def isPassing (worker : Worker) (index : Nat) : Bool := worker.loopPoint index == .passing

end Worker

/-- The next step of a loop with what it does outside. -/
def stepLoop (settings : Settings) (worker : Worker) (index : Nat) : Run Worker := do
  if worker.isPassing index then
    pass settings
    return worker.advance index
  else return worker.advance index

/-- Steps of a loop, one after the other. -/
def stepLoopTimes (settings : Settings) (index : Nat) : Nat → Worker → Run Worker
  | 0, worker => pure worker
  | count + 1, worker => do
      let after ← stepLoop settings worker index
      stepLoopTimes settings index count after

/-- The steps from the start of a loop, or from its waking up, to its next waiting. -/
def stepsPerPass : Nat := 2

/-- Starts a worker; a loop that is new makes its first pass and waits. -/
def startAndPass (settings : Settings) (worker : Worker) : Run Worker :=
  if worker.running then pure worker
  else stepLoopTimes settings worker.loops.length stepsPerPass worker.start

/-- Stops a worker whose loop is waiting: the loop wakes up, sees the flag and finishes. -/
def stopAndJoin (settings : Settings) (worker : Worker) : Run Worker :=
  match worker.current with
  | some index => do
      let after ← stepLoopTimes settings index stepsPerPass worker.requestStop
      return after.forget
  | none => pure worker.requestStop

end Sync

end TestSignal
