import Compliance.Json.Writer
import Compliance.Scan.Outcome

/-!
The report of a scan: a line per rule, and the violations that were recorded.
-/

namespace Compliance.Scan

structure RuleLine where
  ruleId : String
  ruleName : String
  outcome : String
  matchedRows : Nat
  truncated : Bool
  error : Option String
  deriving DecidableEq, Repr, Inhabited

def RuleLine.ofEvaluation (e : Evaluation) : RuleLine :=
  ⟨e.ruleId, e.ruleName, e.outcome.label, e.outcome.candidates.length, e.outcome.isTruncated,
    e.outcome.error?⟩

structure NewViolation where
  id : String
  rule : String
  table : String
  recordId : String
  deriving DecidableEq, Repr, Inhabited

structure Report where
  startedAt : Time.Timestamp
  durationMillis : Nat
  rulesEvaluated : Nat
  rulesFailed : Nat
  cancelled : Bool
  violationsFound : Nat
  newViolations : List NewViolation
  rules : List RuleLine
  deriving DecidableEq, Repr, Inhabited

def ruleNameOf (evaluations : List Evaluation) (ruleId : String) : String :=
  ((evaluations.reverse.find? (·.ruleId = ruleId)).map (·.ruleName)).getD ruleId

namespace Report

def ofEvaluations (startedAt : Time.Timestamp) (durationMillis : Nat) (evaluations : List Evaluation)
    (persisted : List Violation) (cancelled : Bool) : Report := {
  startedAt, durationMillis, cancelled
  rulesEvaluated := evaluations.countP fun e => !e.outcome.isSkipped
  rulesFailed := evaluations.countP fun e => e.outcome.isFailure
  violationsFound := persisted.length
  newViolations := persisted.map fun v => ⟨v.id, ruleNameOf evaluations v.ruleId, v.table, v.recordId⟩
  rules := evaluations.map RuleLine.ofEvaluation }

def lasting (r : Report) (millis : Nat) : Report :=
  if r.rules = [] then r else { r with durationMillis := millis }

def empty (startedAt : Time.Timestamp) : Report := ofEvaluations startedAt 0 [] [] false

def lineJson (line : RuleLine) : Json := .object (
  [("rule_id", .text line.ruleId), ("rule_name", .text line.ruleName), ("outcome", .text line.outcome),
    ("matched_rows", .int line.matchedRows), ("truncated", .bool line.truncated)]
  ++ match line.error with
    | some error => [("error", .text error)]
    | none => [])

def newViolationJson (v : NewViolation) : Json := .object [
  ("id", .text v.id), ("rule", .text v.rule), ("table_name", .text v.table),
  ("record_id", .text v.recordId)]

def toJson (r : Report) : Json := .object [
  ("started_at", .text r.startedAt.write), ("duration_ms", .int r.durationMillis),
  ("rules_evaluated", .int r.rulesEvaluated), ("rules_failed", .int r.rulesFailed),
  ("cancelled", .bool r.cancelled),
  ("violations_found", .int r.violationsFound),
  ("new_violations", .array (r.newViolations.map newViolationJson)),
  ("rules", .array (r.rules.map lineJson))]

def write (r : Report) : String := r.toJson.pretty

end Report

end Compliance.Scan
