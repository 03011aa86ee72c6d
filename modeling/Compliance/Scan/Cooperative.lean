import Compliance.Scan.Pass

/-!
Running a pass on one thread.

Queries take turns in the order in which they come into the line. A query that yields comes back
once the line is empty, the last one to yield first. One that never answers waits for its deadline
or a cancellation, and time passes only while no query has yielded: from one deadline to the next,
or to the moment at which the pass is cancelled from outside.
-/

namespace Compliance.Scan

/-- How a query behaves: its turns without an answer, whether it cancels the pass in the turn after
them, and what it answers then, if ever. -/
structure Behaviour where
  yields : Nat
  cancels : Bool
  answer : Option Answer

namespace Behaviour

def immediate (answer : Answer) : Behaviour := ⟨0, false, some answer⟩

def turn (b : Behaviour) (slot : Nat) (expired : Bool) : List Event × Behaviour :=
  match b.yields with
  | n + 1 => ([.turn slot none expired], { b with yields := n })
  | 0 =>
    -- what the query cancels, it cancels before it answers
    ((if b.cancels then [.look slot, .cancel] else []) ++ [.turn slot b.answer expired],
      { b with cancels := false })

def execute (b : Behaviour) (deadline : Time.Duration) (cancelled : Bool) : Answer × Nat × Bool :=
  let turns : List Turn :=
    List.replicate b.yields ⟨cancelled, none, false⟩
      ++ [⟨cancelled, b.answer, false⟩, ⟨cancelled || b.cancels, none, true⟩]
  let answer := (Execution.run deadline turns).getD (.error (.timeout deadline))
  (answer, if cancelled then 0 else 1, cancelled || b.cancels)

end Behaviour

/-- A query in flight: its slot, how it behaves, and in which span of time it started. -/
structure Flight where
  slot : Nat
  behaviour : Behaviour
  startedIn : Nat

structure Cooperative where
  pass : Pass
  /-- The slots that wait for a turn, first in line first, and whether their deadlines have passed. -/
  line : List (Nat × Bool)
  opened : Nat
  flights : List Flight
  /-- The slots that have yielded, last first. -/
  yielded : List Nat
  span : Nat
  cancelAfter : Option Time.Duration
  calls : List Query

namespace Cooperative

abbrev Runner := Nat → Query → Behaviour

def begin (pass : Pass) (cancelAfter : Option Time.Duration) : Cooperative :=
  ⟨pass, [], 0, [], [], 0, cancelAfter, []⟩

def fill (c : Cooperative) : Cooperative :=
  let unfinished := c.opened - c.pass.evaluations.length
  let room := min (c.pass.settings.maxWorkers - unfinished) (c.pass.slots.length - c.opened)
  { c with line := c.line ++ (List.range' c.opened room).map (·, false), opened := c.opened + room }

def rouse (c : Cooperative) : Cooperative :=
  let queued := c.line.map (·.1)
  { c with
    line := c.line ++
      (c.flights.filter fun f => !queued.contains f.slot).map fun f => (f.slot, false) }

def land (c : Cooperative) (slot : Nat) : Cooperative :=
  if c.pass.slots[slot]?.any Slot.isRunning then c
  else { c with
    flights := c.flights.filter (·.slot ≠ slot)
    line := c.line.filter (·.1 ≠ slot)
    yielded := c.yielded.filter (· ≠ slot) }

/-- Gives a flight its turn. A cancellation in it brings all flights into the line. -/
def fly (c : Cooperative) (flight : Flight) (expired : Bool) : Cooperative :=
  let (events, behaviour) := flight.behaviour.turn flight.slot expired
  let pass := c.pass.run events
  let flights := c.flights.map fun f => if f.slot = flight.slot then { f with behaviour } else f
  let yielded := if 0 < flight.behaviour.yields then flight.slot :: c.yielded else c.yielded
  let next := { c with pass, flights, yielded }.land flight.slot
  if pass.cancelled && !c.pass.cancelled then next.rouse else next

def launch (runner : Runner) (c : Cooperative) (slot : Nat) : Cooperative :=
  let pass := c.pass.step .start
  match pass.slots[slot]? with
  | some (.running _ query) =>
    let flight : Flight := ⟨slot, runner c.calls.length query, c.span⟩
    { c with pass, flights := c.flights ++ [flight], calls := query :: c.calls }.fly flight false
  | _ => { c with pass }

def isInterrupted (c : Cooperative) : Bool :=
  c.cancelAfter.any fun moment => moment.nanos < (c.span + 1) * c.pass.settings.timeout.nanos

/-- Fills an empty line: with the slots that have yielded, with all flights if the pass is cancelled
now, or else with the flights that started first, whose deadlines pass. -/
def refill (c : Cooperative) : Cooperative :=
  if c.yielded ≠ [] then { c with line := c.yielded.map (·, false), yielded := [] }
  else if c.isInterrupted then rouse { c with pass := c.pass.step .cancel, cancelAfter := none }
  else
    let first := c.flights.head?.map (·.startedIn)
    { c with
      span := c.span + 1
      line := (c.flights.filter fun f => some f.startedIn = first).map fun f => (f.slot, true) }

def advance (runner : Runner) (c : Cooperative) : Cooperative :=
  let c := c.fill
  match c.line with
  | [] => c.refill
  | (slot, expired) :: rest =>
    match c.flights.find? (·.slot = slot) with
    | some flight => { c with line := rest }.fly flight expired
    | none => launch runner { c with line := rest } slot

def run (runner : Runner) : Nat → Cooperative → Cooperative
  | 0, c => c
  | fuel + 1, c => if c.pass.isDone then c else run runner fuel (c.advance runner)

/-- Turns enough for all rules: a start, an end, a cancellation, and for every turn without an
answer one to come back; and one more for a cancellation from outside. -/
def turnBound (rules yields : Nat) : Nat := rules * (2 * yields + 5) + 2

def evaluate (runner : Runner) (yields : Nat) (cancelAfter : Option Time.Duration) (settings : Settings)
    (catalog : Catalog) (rules : List Rule) (cancelled : Bool) : Cooperative :=
  (begin (Pass.begin settings catalog rules cancelled) cancelAfter).run runner
    (turnBound rules.length yields)

end Cooperative

end Compliance.Scan
