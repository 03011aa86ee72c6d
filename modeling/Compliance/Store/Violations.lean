import Compliance.Store.Rules

/-!
The recorded violations.

A batch of candidates is recorded all at once or not at all. Under the policy that skips open
findings a candidate is recorded only if no open violation of its key is there, those of the same
batch included. A listing joins every violation with its rule, the latest first.
-/

namespace Compliance.Store

open Database
open Violation (Candidate DedupPolicy)

def hasOpen (rows : List ViolationRow) (key : String × String × String) : Bool :=
  rows.any fun row => row.key = key && row.status = Violation.Status.opened.name

def rowOfViolation (v : Violation) : Except Fault ViolationRow :=
  match ViolationRow.ofViolation? v with
  | some row => .ok row
  | none => .error (.notConvertible v.createdAt.write .timestamp)

def recordAll (newId : Nat → String) (now : Time.Timestamp) (policy : DedupPolicy) (taken : Nat)
    (rows : List ViolationRow) : List Candidate → Except Fault (List Violation × List ViolationRow)
  | [] => .ok ([], rows)
  | candidate :: rest =>
    if policy = .skipOpen ∧ hasOpen rows candidate.key then recordAll newId now policy taken rows rest
    else do
      let violation := candidate.record (newId taken) now
      let rows ← addRow ViolationRow.id (← rowOfViolation violation) rows
      let (recorded, rows) ← recordAll newId now policy (taken + 1) rows rest
      return (violation :: recorded, rows)

def persist (newId : Nat → String) (now : Time.Timestamp) (candidates : List Candidate)
    (policy : DedupPolicy) (s : Store) : Except Failure (List Violation × Store) := asFailure do
  if candidates = [] then return ([], s)
  let (recorded, rows) ← recordAll newId now policy 0 (← s.violationRows) candidates
  return (recorded, { s with violations := some rows })

def accepts (filter : Violation.Filter) (row : ViolationRow) : Bool :=
  filter.severity.all (·.name = row.severity) && filter.status.all (·.name = row.status)

def joined (rules : List RuleRow) (row : ViolationRow) : List (ViolationRow × RuleRow) :=
  (rules.filter (·.id = row.ruleId)).map (row, ·)

def viewOf (pair : ViolationRow × RuleRow) : Except Failure Violation.View := do
  return ⟨← pair.1.toViolation, pair.2.name, pair.2.kind⟩

def listViolations (filter : Violation.Filter) (s : Store) : Except Failure (List Violation.View) := do
  let rows ← asFailure s.violationRows
  let rules := (← asFailure s.ruleTable).rows
  let pairs := (rows.filter (accepts filter)).flatMap (joined rules)
  (pairs.mergeSort fun a b => a.1.before b.1).mapM viewOf

end Compliance.Store
