import Compliance.Scan.Pass
import Compliance.Scan.Report

/-!
A scan from the stored rules to the report.

The rules come first, then the catalog; every rule is evaluated; and what was found is recorded all
at once. A scan that ends with an error has recorded nothing.
-/

namespace Compliance.Scan

inductive ScanError
  | storeUnavailable (cause : Failure)
  | persistence (cause : Failure)
  | cancelled
  deriving DecidableEq, Repr

namespace ScanError

def message : ScanError → String
  | storeUnavailable cause => "Store unavailable: " ++ cause.message
  | persistence cause => "Failed to persist violations: " ++ cause.message
  | cancelled => "Scan cancelled before violations were persisted"

def code : ScanError → String
  | storeUnavailable _ => "vigil::scan::store_unavailable"
  | persistence _ => "vigil::scan::persistence"
  | cancelled => "vigil::scan::cancelled"

def help? : ScanError → Option String
  | storeUnavailable _ =>
    some "Check that the database path is correct and that `vigil init` has been run."
  | _ => none

end ScanError

/-- How rules are evaluated: the evaluations in the order of the rules, and whether the scan has
been cancelled. -/
abbrev Evaluate := Settings → Catalog → List Rule → List Evaluation × Bool

structure Store (S : Type) where
  fetch : List Rule.Status → S → Except Failure (List Rule)
  catalog : S → Except Failure Catalog
  persist : List Violation.Candidate → Violation.DedupPolicy → S → Except Failure (List Violation × S)

structure Clock where
  startedAt : Time.Timestamp
  durationMillis : Nat
  deriving DecidableEq, Repr, Inhabited

def run {S : Type} (store : Store S) (evaluate : Evaluate) (settings : Settings) (clock : Clock)
    (state : S) :
    Except ScanError (Report × S) := do
  let rules ← (store.fetch Rule.Status.scannable state).mapError .storeUnavailable
  if rules.isEmpty then return (Report.empty clock.startedAt, state)
  let catalog ← (store.catalog state).mapError .storeUnavailable
  let (evaluations, cancelled) := evaluate settings catalog rules
  if cancelled && !settings.persistOnCancel then throw .cancelled
  let candidates := evaluations.flatMap (·.outcome.candidates)
  let (recorded, state) ← (store.persist candidates settings.dedup state).mapError .persistence
  return (Report.ofEvaluations clock.startedAt clock.durationMillis evaluations recorded cancelled,
    state)

end Compliance.Scan
