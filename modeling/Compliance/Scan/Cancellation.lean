/-!
Cancellation as a signal between tasks.

A signal has a flag and the tasks that wait for it. Cancelling takes two steps, raising the flag and
waking the tasks that are registered at that moment; waiting takes three, registering, reading the
flag, and parking. A task registers before it reads the flag, so that a cancellation between the two
wakes it.
-/

namespace Compliance.Scan

structure Signal where
  cancelled : Bool
  registered : List Nat
  woken : List Nat
  deriving DecidableEq, Repr, Inhabited

namespace Signal

def fresh : Signal := ⟨false, [], []⟩

def register (s : Signal) (task : Nat) : Signal :=
  { s with registered := task :: s.registered.filter (· ≠ task) }

def raise (s : Signal) : Signal := { s with cancelled := true }

def wake (s : Signal) : Signal := { s with registered := [], woken := s.registered ++ s.woken }

def cancel (s : Signal) : Signal := s.raise.wake

/-- The first turn of a waiting task: it registers, and is done if the flag is up. -/
def enter (s : Signal) (task : Nat) : Signal × Bool := (s.register task, s.cancelled)

/-- A later turn of a parked task: it is done if it has been woken. -/
def resume (s : Signal) (task : Nat) : Bool := s.woken.contains task

def leave (s : Signal) (task : Nat) : Signal :=
  { s with registered := s.registered.filter (· ≠ task), woken := s.woken.filter (· ≠ task) }

end Signal

structure Handles where
  signals : List Signal
  owners : List Nat
  deriving DecidableEq, Repr, Inhabited

namespace Handles

def single : Handles := ⟨[.fresh], [0]⟩

def signal? (h : Handles) (handle : Nat) : Option Signal := do h.signals[← h.owners[handle]?]?

def create (h : Handles) : Handles := ⟨h.signals ++ [.fresh], h.owners ++ [h.signals.length]⟩

def share (h : Handles) (handle : Nat) : Handles :=
  { h with owners := h.owners ++ (h.owners[handle]?).toList }

def update (h : Handles) (handle : Nat) (change : Signal → Signal) : Handles :=
  match h.owners[handle]? with
  | some owner => { h with signals := h.signals.modify owner change }
  | none => h

def cancel (h : Handles) (handle : Nat) : Handles := h.update handle Signal.cancel

def isCancelled (h : Handles) (handle : Nat) : Bool := (h.signal? handle).any (·.cancelled)

def resolves (h : Handles) (handle : Nat) : Bool := (h.signal? handle).any fun s => (s.enter 0).2

/-- A task waits for one handle while another is cancelled: whether it is done before, and whether
it is done after. -/
def waitAcross (h : Handles) (waiting cancelling : Nat) : (Bool × Bool) × Handles :=
  let before := h.resolves waiting
  let h := (h.update waiting fun s => (s.enter 0).1).cancel cancelling
  let after := before || (h.signal? waiting).any (·.resume 0)
  ((before, after), h.update waiting (·.leave 0))

end Handles

end Compliance.Scan
