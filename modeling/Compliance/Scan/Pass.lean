import Compliance.Query.Basic
import Compliance.Scan.Outcome
import Compliance.Scan.Settings

/-!
One pass over the rules.

Every rule has a slot, in the order of the rules: it waits, its query runs, or it has ended. Events
move the slots on in whatever order they come (`Pass.step`); at most `maxWorkers` slots run at a
time. The evaluations are read off the slots, so that they stand in the order of the rules.

A query that runs is polled. A poll starts with a look at the cancellation and ends with the answer
of the query or its deadline, if either is there, and anything may happen in between: what is
cancelled then is seen by the next poll.
-/

namespace Compliance.Scan

inductive Slot
  | waiting (rule : Rule)
  | running (rule : Rule) (query : Query)
  /-- A poll is under way, and the pass was not cancelled when it started. -/
  | polled (rule : Rule) (query : Query)
  | ended (evaluation : Evaluation)

namespace Slot

def isRunning : Slot → Bool
  | running .. | polled .. => true
  | _ => false

def isPolled : Slot → Bool
  | polled .. => true
  | _ => false

def isWaiting : Slot → Bool
  | waiting _ => true
  | _ => false

def evaluation? : Slot → Option Evaluation
  | ended evaluation => some evaluation
  | _ => none

end Slot

def maxRowCount : Nat := Nat.pow 2 64 - 1

/-- One row more than the cap tells whether there are more; the largest cap has no such row. -/
def rowLimit (maxRows : Nat) : Nat := min (maxRows + 1) maxRowCount

structure Pass where
  settings : Settings
  catalog : Catalog
  slots : List Slot
  cancelled : Bool

inductive Event
  | start
  | cancel
  | look (slot : Nat)
  /-- A poll ends: the answer of the query, if it has one, and whether its deadline has passed. A
  poll that has not started yet does so at this very moment. -/
  | turn (slot : Nat) (answer : Option Answer) (expired : Bool)

namespace Pass

def begin (settings : Settings) (catalog : Catalog) (rules : List Rule) (cancelled : Bool) : Pass :=
  ⟨settings, catalog, rules.map .waiting, cancelled⟩

def runningCount (p : Pass) : Nat := p.slots.countP Slot.isRunning

def isDone (p : Pass) : Bool := p.slots.all fun slot => slot.evaluation?.isSome

def evaluations (p : Pass) : List Evaluation := p.slots.filterMap Slot.evaluation?

def endSlot (rule : Rule) (outcome : Outcome) : Slot := .ended ⟨rule.id, rule.name, outcome⟩

def startSlot (p : Pass) (rule : Rule) : Slot :=
  if p.cancelled then endSlot rule .skipped
  else match Query.compile p.catalog rule with
    | .ok query => .running rule query
    | .error error => endSlot rule (.compileFailed error)

def lookSlot (p : Pass) : Slot → Slot
  | .running rule query => if p.cancelled then endSlot rule .skipped else .polled rule query
  | slot => slot

/-- The end of a poll, which does not look at the cancellation once more. -/
def settleSlot (p : Pass) (answer : Option Answer) (expired : Bool) : Slot → Slot
  | .polled rule query =>
    match Execution.poll p.settings.timeout ⟨false, answer, expired⟩ with
    | some answer => endSlot rule (Outcome.ofAnswer rule query p.settings.maxRows answer)
    | none => .running rule query
  | slot => slot

def turnSlot (p : Pass) (answer : Option Answer) (expired : Bool) (slot : Slot) : Slot :=
  p.settleSlot answer expired (p.lookSlot slot)

def startFirst (p : Pass) : List Slot → List Slot
  | [] => []
  | .waiting rule :: rest => p.startSlot rule :: rest
  | slot :: rest => slot :: startFirst p rest

def hasRoom (p : Pass) : Bool := p.runningCount < p.settings.maxWorkers

def step (p : Pass) : Event → Pass
  | .start => if p.hasRoom then { p with slots := p.startFirst p.slots } else p
  | .cancel => { p with cancelled := true }
  | .look slot => { p with slots := p.slots.modify slot p.lookSlot }
  | .turn slot answer expired => { p with slots := p.slots.modify slot (p.turnSlot answer expired) }

def run (p : Pass) (events : List Event) : Pass := events.foldl step p

def candidates (p : Pass) : List Violation.Candidate := p.evaluations.flatMap (·.outcome.candidates)

end Pass

end Compliance.Scan
