import Compliance.Scan.Cancellation

/-!
Tasks that wait for a signal and cancel it, one step at a time.

The tasks take their steps in any order, on handles of one signal. A task that waits makes its
registration, enables it, reads the flag and parks if the flag is down; it is done once the flag is
up or it has been woken. A task that cancels raises the flag and then wakes the tasks that are
registered. Waiting may be given up before any of its steps.
-/

namespace Compliance.Scan

inductive Phase
  | outside
  /-- Waiting: the registration is made, but not enabled. -/
  | entered
  /-- Waiting: the registration is enabled, and the flag not yet read. -/
  | enabled
  /-- Waiting: the flag was down when it was read. -/
  | unraised
  | parked
  /-- Cancelling: the flag is up, and the registered tasks are still to be woken. -/
  | raised
  deriving DecidableEq, Repr, Inhabited

inductive Act
  | wait
  | cancel
  | go
  | drop
  deriving DecidableEq, Repr, Inhabited

structure Tasks where
  signal : Signal
  phase : Nat → Phase
  cancelled : Nat
  returned : List Nat

namespace Phase

def isListening : Phase → Bool
  | enabled | unraised | parked => true
  | outside | entered | raised => false

def isCommitted : Phase → Bool
  | unraised | parked => true
  | outside | entered | enabled | raised => false

def isWaiting : Phase → Bool
  | entered | enabled | unraised | parked => true
  | outside | raised => false

end Phase

namespace Tasks

def fresh : Tasks := ⟨.fresh, fun _ => .outside, 0, []⟩

def move (w : Tasks) (task : Nat) (phase : Phase) : Tasks :=
  { w with phase := fun t => if t = task then phase else w.phase t }

def leave (w : Tasks) (task : Nat) : Tasks := { w.move task .outside with signal := w.signal.leave task }

def finish (w : Tasks) (task : Nat) : Tasks := { w.leave task with returned := task :: w.returned }

/-- A task cannot begin a call within another, and can give up waiting only. -/
def step (w : Tasks) (task : Nat) : Act → Tasks
  | .wait =>
    match w.phase task with
    | .outside => w.move task .entered
    | _ => w
  | .cancel =>
    match w.phase task with
    | .outside => { w.move task .raised with signal := w.signal.raise }
    | _ => w
  | .drop => if (w.phase task).isWaiting then w.leave task else w
  | .go =>
    match w.phase task with
    | .outside => w
    | .entered => { w.move task .enabled with signal := w.signal.register task }
    | .enabled => if w.signal.cancelled then w.finish task else w.move task .unraised
    | .unraised | .parked => if w.signal.resume task then w.finish task else w.move task .parked
    | .raised => { w.move task .outside with signal := w.signal.wake, cancelled := w.cancelled + 1 }

def run (w : Tasks) (acts : List (Nat × Act)) : Tasks := acts.foldl (fun w act => w.step act.1 act.2) w

end Tasks

end Compliance.Scan
