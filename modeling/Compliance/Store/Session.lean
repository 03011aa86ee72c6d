import Compliance.Scan.Process
import Compliance.Store.Violations

/-!
A connection to the store.

A transaction works on a copy of the store. Committing puts the copy in the store's place, and every
other end of the transaction gives the copy up. Any statement may be refused, whatever the store
holds.
-/

namespace Compliance.Store

open Database
open Violation (Candidate DedupPolicy)

/-- What a connection is asked for. Those that a candidate or a rule brings are told by its place in
the batch. -/
inductive Statement
  | fetch
  | catalog
  | start
  | check (place : Nat)
  | insert (place : Nat)
  | commit
  deriving DecidableEq, Repr

abbrev Refusals := Statement → Option Failure

structure Session where
  saved : Store
  working : Option Store
  deriving DecidableEq, Repr, Inhabited

namespace Session

def opened (s : Store) : Session := ⟨s, none⟩

def current (c : Session) : Store := c.working.getD c.saved

def put (c : Session) (s : Store) : Session :=
  match c.working with
  | some _ => { c with working := some s }
  | none => { c with saved := s }

def commit (c : Session) : Session := ⟨c.current, none⟩

def rollBack (c : Session) : Session := { c with working := none }

end Session

abbrev Action := ExceptT Failure (StateM Session)

namespace Action

variable {α : Type}

def look (refusals : Refusals) (statement : Statement) (f : Store → Except Failure α) :
    Action α := fun c =>
  match refusals statement with
  | some failure => (.error failure, c)
  | none => (f c.current, c)

def change (refusals : Refusals) (statement : Statement) (f : Store → Except Failure Store) :
    Action Unit := fun c =>
  match refusals statement with
  | some failure => (.error failure, c)
  | none =>
    match f c.current with
    | .ok s => (.ok (), c.put s)
    | .error failure => (.error failure, c)

def transaction (refusals : Refusals) (body : Action α) : Action α := fun c =>
  match refusals .start with
  | some failure => (.error failure, c)
  | none =>
    match body { c with working := some c.saved } with
    | (.error failure, c) => (.error failure, c.rollBack)
    | (.ok a, c) =>
      match refusals .commit with
      | some failure => (.error failure, c.rollBack)
      | none => (.ok a, c.commit)

end Action

def isReported (key : String × String × String) (s : Store) : Except Failure Bool := asFailure do
  return hasOpen (← s.violationRows) key

def insertViolation (v : Violation) (s : Store) : Except Failure Store := asFailure do
  let rows ← s.violationRows
  return { s with violations := some (← addRow ViolationRow.id (← rowOfViolation v) rows) }

def isPassedOver (refusals : Refusals) (place : Nat) (key : String × String × String) :
    DedupPolicy → Action Bool
  | .append => return false
  | .skipOpen => Action.look refusals (.check place) (isReported key)

/-- Records the candidates from a place of the batch on; `taken` identities have been given out
before. -/
def recordFrom (refusals : Refusals) (newId : Nat → String) (now : Time.Timestamp)
    (policy : DedupPolicy) :
    (place taken : Nat) → List Candidate → Action (List Violation)
  | _, _, [] => return []
  | place, taken, candidate :: rest => do
    if ← isPassedOver refusals place candidate.key policy then
      recordFrom refusals newId now policy (place + 1) taken rest
    else
      let violation := candidate.record (newId taken) now
      Action.change refusals (.insert place) (insertViolation violation)
      return violation :: (← recordFrom refusals newId now policy (place + 1) (taken + 1) rest)

def recordBatch (refusals : Refusals) (newId : Nat → String) (now : Time.Timestamp)
    (candidates : List Candidate) (policy : DedupPolicy) : Action (List Violation) :=
  Action.transaction refusals (recordFrom refusals newId now policy 0 0 candidates)

def insertRule (rule : Rule) (s : Store) : Except Failure Store := asFailure do
  return { s with rules := some (← addRule (← s.ruleTable) rule) }

def insertFrom (refusals : Refusals) : (place : Nat) → List Rule → Action Unit
  | _, [] => return
  | place, rule :: rest => do
    Action.change refusals (.insert place) (insertRule rule)
    insertFrom refusals (place + 1) rest

def insertBatch (refusals : Refusals) (rules : List Rule) : Action Unit :=
  Action.transaction refusals (insertFrom refusals 0 rules)

def ports (refusals : Refusals) (newId : Nat → String) (now : Time.Timestamp) : Scan.Ports Session where
  fetch statuses c := (Action.look refusals .fetch (fetchRules statuses) c).1
  catalog c := (Action.look refusals .catalog catalog c).1
  persist candidates policy c := recordBatch refusals newId now candidates policy c

end Compliance.Store
