import Compliance.Scan.Run

/-!
A scan step by step.

By itself a scan goes from the rules to the catalog, on to the evaluations, and from these to the
record of what was found (`Process.advance`). Between two such steps queries have their turns and
the scan may be cancelled (`Process.react`). What it asks of others stands in `calls`, in the order
in which it asks.
-/

namespace Compliance.Scan

def Event.isCancel : Event → Bool
  | .cancel => true
  | _ => false

/-- The slot whose query is asked for its answer: at the end of a poll, unless the pass was
cancelled when it started. -/
def Pass.asked (p : Pass) : Event → Option Nat
  | .turn slot _ _ => if (p.slots[slot]?.map p.lookSlot).any Slot.isPolled then some slot else none
  | _ => none

/-- What a scan works with. Whatever becomes of a batch, there is a state after it. -/
structure Ports (S : Type) where
  fetch : List Rule.Status → S → Except Failure (List Rule)
  catalog : S → Except Failure Catalog
  persist : List Violation.Candidate → Violation.DedupPolicy → S → Except Failure (List Violation) × S

inductive Call
  | fetch (statuses : List Rule.Status)
  | catalog
  | query (slot : Nat)
  | persist (candidates : List Violation.Candidate) (policy : Violation.DedupPolicy)
  deriving DecidableEq, Repr

inductive Stage
  | fetching
  | loading (rules : List Rule)
  | evaluating (pass : Pass)
  | ended (evaluations : List Evaluation) (result : Except ScanError Report)

inductive Moment
  | advance
  | event (event : Event)

structure Process (S : Type) where
  state : S
  cancelled : Bool
  stage : Stage
  calls : List Call

namespace Process

variable {S : Type}

def begin (state : S) : Process S := ⟨state, false, .fetching, []⟩

/-- Ends a scan whose evaluations have ended: with nothing, if it was cancelled and is not to record
what was found by then, or else with the one call that records it. -/
def conclude (ports : Ports S) (settings : Settings) (clock : Clock) (p : Process S) (pass : Pass) :
    Process S :=
  if p.cancelled && !settings.persistOnCancel
    then { p with stage := .ended pass.evaluations (.error .cancelled) }
  else
    let (result, state) := ports.persist pass.candidates settings.dedup p.state
    let report := fun recorded =>
      Report.ofEvaluations clock.startedAt clock.durationMillis pass.evaluations recorded p.cancelled
    { p with
      state
      stage := .ended pass.evaluations ((result.mapError .persistence).map report)
      calls := p.calls ++ [.persist pass.candidates settings.dedup] }

def advance (ports : Ports S) (settings : Settings) (clock : Clock) (p : Process S) : Process S :=
  match p.stage with
  | .fetching =>
    let stage := match ports.fetch Rule.Status.scannable p.state with
      | .error cause => .ended [] (.error (.storeUnavailable cause))
      | .ok [] => .ended [] (.ok (Report.empty clock.startedAt))
      | .ok rules => .loading rules
    { p with stage, calls := p.calls ++ [.fetch Rule.Status.scannable] }
  | .loading rules =>
    let stage := match ports.catalog p.state with
      | .error cause => .ended [] (.error (.storeUnavailable cause))
      | .ok catalog => .evaluating (Pass.begin settings catalog rules p.cancelled)
    { p with stage, calls := p.calls ++ [.catalog] }
  | .evaluating pass => if pass.isDone then p.conclude ports settings clock pass else p
  | .ended .. => p

def react (p : Process S) (event : Event) : Process S :=
  let cancelled := p.cancelled || event.isCancel
  match p.stage with
  | .evaluating pass =>
    { p with
      cancelled, stage := .evaluating (pass.step event)
      calls := p.calls ++ (pass.asked event).toList.map .query }
  | _ => { p with cancelled }

def step (ports : Ports S) (settings : Settings) (clock : Clock) (p : Process S) : Moment → Process S
  | .advance => p.advance ports settings clock
  | .event event => p.react event

def run (ports : Ports S) (settings : Settings) (clock : Clock) (p : Process S)
    (moments : List Moment) : Process S :=
  moments.foldl (step ports settings clock) p

def evaluation? (p : Process S) (slot : Nat) : Option Evaluation :=
  match p.stage with
  | .evaluating pass => pass.slots[slot]?.bind Slot.evaluation?
  | .ended evaluations _ => evaluations[slot]?
  | _ => none

def isRunning (p : Process S) (slot : Nat) : Bool :=
  match p.stage with
  | .evaluating pass => pass.slots[slot]?.any Slot.isRunning
  | _ => false

def isPolled (p : Process S) (slot : Nat) : Bool :=
  match p.stage with
  | .evaluating pass => pass.slots[slot]?.any Slot.isPolled
  | _ => false

def queried (p : Process S) : List Nat := p.calls.filterMap fun
  | .query slot => some slot
  | _ => none

def batches (p : Process S) : List (List Violation.Candidate × Violation.DedupPolicy) :=
  p.calls.filterMap fun
  | .persist candidates policy => some (candidates, policy)
  | _ => none

end Process

end Compliance.Scan
