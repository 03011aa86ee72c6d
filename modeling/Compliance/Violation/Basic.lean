import Compliance.Json.Decode
import Compliance.Query.Basic
import Compliance.Rule.Basic
import Compliance.Violation.Severity

/-!
Violations, and the candidates for them that a query finds.

A row becomes a candidate (`Candidate.ofRow`): the value of its key column tells which record it is,
and the whole row is the evidence. Recorded, a candidate becomes a violation with an identity, a
status and a time.
-/

namespace Compliance

abbrev Row := List (Option String)

abbrev Evidence := List (String × Json)

structure Violation where
  id : String
  ruleId : String
  recordId : String
  table : String
  severity : Violation.Severity
  status : Violation.Status
  evidence : Evidence
  explanation : String
  createdAt : Time.Timestamp
  deriving DecidableEq, Repr

namespace Violation

structure Candidate where
  ruleId : String
  ruleName : String
  table : String
  recordId : String
  severity : Severity
  evidence : Evidence
  explanation : String
  deriving DecidableEq, Repr

inductive DedupPolicy
  | append
  | skipOpen
  deriving DecidableEq, Repr, Inhabited

def DedupPolicy.name : DedupPolicy → String
  | append => "append"
  | skipOpen => "skip_open"

def DedupPolicy.variants : List (String × DedupPolicy) := [append, skipOpen].map fun p => (p.name, p)

def nullRecordId : String := "<null>"

def explanationOf (description : String) : String := "Violation of rule: " ++ description

def evidenceOf (columns : List String) (row : Row) : Evidence :=
  (columns.zip row).foldl (fun fields cell => insertKey cell.1 (Json.ofText? cell.2) fields) []

namespace Candidate

def key (c : Candidate) : String × String × String := (c.ruleId, c.table, c.recordId)

def ofRow (rule : Rule) (query : Query) (row : Row) : Candidate := {
  ruleId := rule.id
  ruleName := rule.name
  table := query.table
  recordId := (row[query.keyIndex]?.join).getD nullRecordId
  severity := default
  evidence := evidenceOf query.columns row
  explanation := explanationOf rule.description }

def ofRows (rule : Rule) (query : Query) (rows : List Row) : List Candidate :=
  rows.map (ofRow rule query)

def toJson (c : Candidate) : Json := .object [
  ("rule_id", .text c.ruleId), ("rule_name", .text c.ruleName), ("table_name", .text c.table),
  ("record_id", .text c.recordId), ("severity", .text c.severity.name), ("evidence", .object c.evidence),
  ("explanation", .text c.explanation)]

def record (c : Candidate) (id : String) (createdAt : Time.Timestamp) : Violation := {
  id, ruleId := c.ruleId, recordId := c.recordId, table := c.table, severity :=
    c.severity, status := .opened,
  evidence := c.evidence, explanation := c.explanation, createdAt }

end Candidate

def key (v : Violation) : String × String × String := (v.ruleId, v.table, v.recordId)

def fields : List (Field Json) := [
  .required "id" Json.toText, .required "rule_id" Json.toText, .required "record_id" Json.toText,
  .required "table_name" Json.toText, .required "severity" (Json.toVariant Severity.variants),
  .required "status" (Json.toVariant Status.variants), .required "evidence" Json.toFields,
  .required "explanation" Json.toText, .required "created_at" Json.toTimestamp]

def ofJson (value : Json) : Except DecodeError Violation := do
  let record ← value.toRecord "Violation" fields
  return {
    id := ← fieldOf Json.toText "id" record
    ruleId := ← fieldOf Json.toText "rule_id" record
    recordId := ← fieldOf Json.toText "record_id" record
    table := ← fieldOf Json.toText "table_name" record
    severity := ← fieldOf (Json.toVariant Severity.variants) "severity" record
    status := ← fieldOf (Json.toVariant Status.variants) "status" record
    evidence := ← fieldOf Json.toFields "evidence" record
    explanation := ← fieldOf Json.toText "explanation" record
    createdAt := ← fieldOf Json.toTimestamp "created_at" record }

def toFields (v : Violation) : List (String × Json) := [
  ("id", .text v.id), ("rule_id", .text v.ruleId), ("record_id", .text v.recordId),
  ("table_name", .text v.table),
  ("severity", .text v.severity.name), ("status", .text v.status.name), ("evidence", .object v.evidence),
  ("explanation", .text v.explanation), ("created_at", .text v.createdAt.write)]

def toJson (v : Violation) : Json := .object v.toFields

structure View where
  violation : Violation
  ruleName : String
  ruleKind : String
  deriving DecidableEq, Repr

def View.toJson (v : View) : Json :=
  .object (v.violation.toFields ++ [("rule_name", .text v.ruleName), ("rule_type", .text v.ruleKind)])

structure Filter where
  severity : Option Severity
  status : Option Status
  deriving DecidableEq, Repr, Inhabited

end Violation

end Compliance
