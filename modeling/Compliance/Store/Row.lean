import Compliance.Database.Relation
import Compliance.Failure
import Compliance.Json.Draft
import Compliance.Violation.Basic

/-!
The rows of the bookkeeping.

A rule and a violation are kept as rows of texts, so that a row may hold what does not read as a
rule or a violation. A stored rule reads back as it was, its time cut to microseconds
(`RuleRow.ofRule?`, `RuleRow.toRule`); parameters that are no JSON read as the text they are.
-/

namespace Compliance

open Database (Column Fault Instant Value)

namespace Store

def rulesName : String := "compliance_rules"

def violationsName : String := "violations"

structure RuleRow where
  id : String
  name : String
  kind : String
  description : String
  parameters : String
  confidence : Number.Double
  status : String
  createdAt : Instant
  source : Option String
  deriving DecidableEq, Repr, Inhabited

structure ViolationRow where
  id : String
  ruleId : String
  recordId : String
  table : String
  severity : String
  status : String
  evidence : String
  explanation : String
  createdAt : Instant
  deriving DecidableEq, Repr, Inhabited

def readInstant (table : String) (instant : Instant) : Except Failure Time.Timestamp :=
  match instant.toTimestamp? with
  | some t => .ok t
  | none =>
    .error
      (.corruptRow table ("bad timestamp '" ++ instant.momentText ++ "': " ++
        Time.ReadError.invalid.message))

/-- The cells of a row by their columns. A column without a cell takes its default. -/
abbrev Cells := List (String × Option String)

def cell (cells : Cells) (column : String) (default : Option String) : Option String :=
  (cells.lookup column).getD default

def textCell (cells : Cells) (column : String) (default : Option String) : Except Fault String :=
  match cell cells column default with
  | some s => .ok s
  | none => .error (.nullNotAllowed column)

def instantCell (cells : Cells) (column : String) (now : Instant) : Except Fault Instant :=
  match cells.lookup column with
  | none => .ok now
  | some none => .error (.nullNotAllowed column)
  | some (some s) =>
    match Instant.ofMomentText s with
    | some instant => .ok instant
    | none => .error (.notConvertible s .timestamp)

def doubleCell (cells : Cells) (column : String) (default : String) : Except Fault Number.Double := do
  let s ← textCell cells column (some default)
  match Value.doubleOfText? s with
  | some x => return x
  | none => throw (.notConvertible s .double)

def checkColumns (columns : List Column) (cells : Cells) : Except Fault Unit :=
  match cells.find? fun cell => !columns.any (·.name = cell.1) with
  | some unknown => .error (.unknownColumn unknown.1)
  | none => .ok ()

namespace RuleRow

def columns : List Column := [
  ⟨"rule_id", .text⟩, ⟨"rule_name", .text⟩, ⟨"rule_type", .text⟩, ⟨"description", .text⟩,
  ⟨"parameters", .text⟩,
  ⟨"confidence_score", .double⟩, ⟨"status", .text⟩, ⟨"created_at", .timestamp⟩,
  ⟨"source_document", .text⟩]

def values (row : RuleRow) : List Value := [
  .text row.id, .text row.name, .text row.kind, .text row.description, .text row.parameters,
  .real row.confidence,
  .text row.status, .timestamp row.createdAt, (row.source.map Value.text).getD .null]

def ofCells (now : Instant) (cells : Cells) : Except Fault RuleRow := do
  checkColumns columns cells
  return {
    id := ← textCell cells "rule_id" none
    name := ← textCell cells "rule_name" none
    kind := ← textCell cells "rule_type" none
    description := ← textCell cells "description" (some "")
    parameters := ← textCell cells "parameters" none
    confidence := ← doubleCell cells "confidence_score" "0.0"
    status := ← textCell cells "status" (some Rule.Status.pending.name)
    createdAt := ← instantCell cells "created_at" now
    source := cell cells "source_document" none }

def ofRule? (rule : Rule) : Option RuleRow := do
  return {
    id := rule.id, name := rule.name, kind := rule.kind, description := rule.description
    parameters := rule.parameters.compact, confidence := rule.confidence, status := rule.status.name
    createdAt := ← Instant.ofTimestamp? rule.createdAt, source := rule.source }

def readParameters (text : String) : Json := (Json.parse? text).getD (.text text)

def readStatus (text : String) : Except Failure Rule.Status :=
  match Rule.Status.ofName? text with
  | some status => .ok status
  | none => .error (.corruptRow rulesName (Rule.Status.unknownMessage text))

def toRule (row : RuleRow) : Except Failure Rule := do
  let status ← readStatus row.status
  let createdAt ← readInstant rulesName row.createdAt
  return {
    id := row.id, name := row.name, kind := row.kind, description := row.description
    parameters := readParameters row.parameters, confidence :=
      row.confidence, status, createdAt, source := row.source }

def before (a b : RuleRow) : Bool :=
  match a.createdAt.order b.createdAt with
  | .lt => true
  | .eq => a.id ≤ b.id
  | .gt => false

end RuleRow

namespace ViolationRow

def columns : List Column := [
  ⟨"violation_id", .text⟩, ⟨"rule_id", .text⟩, ⟨"record_id", .text⟩, ⟨"table_name", .text⟩,
  ⟨"severity", .text⟩,
  ⟨"status", .text⟩, ⟨"evidence", .text⟩, ⟨"explanation", .text⟩, ⟨"created_at", .timestamp⟩]

def values (row : ViolationRow) : List Value := [
  .text row.id, .text row.ruleId, .text row.recordId, .text row.table, .text row.severity,
  .text row.status,
  .text row.evidence, .text row.explanation, .timestamp row.createdAt]

def ofCells (now : Instant) (cells : Cells) : Except Fault ViolationRow := do
  checkColumns columns cells
  return {
    id := ← textCell cells "violation_id" none
    ruleId := ← textCell cells "rule_id" none
    recordId := ← textCell cells "record_id" none
    table := ← textCell cells "table_name" none
    severity := ← textCell cells "severity" (some Violation.Severity.high.name)
    status := ← textCell cells "status" (some Violation.Status.opened.name)
    evidence := ← textCell cells "evidence" none
    explanation := ← textCell cells "explanation" none
    createdAt := ← instantCell cells "created_at" now }

def ofViolation? (v : Violation) : Option ViolationRow := do
  return {
    id := v.id, ruleId := v.ruleId, recordId := v.recordId, table := v.table, severity := v.severity.name
    status := v.status.name, evidence := (Json.object v.evidence).compact, explanation := v.explanation
    createdAt := ← Instant.ofTimestamp? v.createdAt }

def readName {α : Type} (read : String → Option α) (message : String → String) (text : String) :
    Except Failure α :=
  match read text with
  | some value => .ok value
  | none => .error (.corruptRow violationsName (message text))

def readEvidence (text : String) : Except Failure Evidence :=
  match Json.parse? text with
  | some value => value.toFields.mapError fun error => .corruptRow violationsName error.message
  | none => .error (.corruptRow violationsName DecodeError.notJson.message)

def toViolation (row : ViolationRow) : Except Failure Violation := do
  let severity ← readName Violation.Severity.ofName? Violation.Severity.unknownMessage row.severity
  let status ← readName Violation.Status.ofName? Violation.Status.unknownMessage row.status
  let evidence ← readEvidence row.evidence
  let createdAt ← readInstant violationsName row.createdAt
  return {
    id := row.id, ruleId := row.ruleId, recordId := row.recordId, table :=
      row.table, severity, status, evidence
    explanation := row.explanation, createdAt }

def key (row : ViolationRow) : String × String × String := (row.ruleId, row.table, row.recordId)

def before (a b : ViolationRow) : Bool :=
  match a.createdAt.order b.createdAt with
  | .gt => true
  | .eq => a.id ≤ b.id
  | .lt => false

end ViolationRow

end Store

end Compliance
