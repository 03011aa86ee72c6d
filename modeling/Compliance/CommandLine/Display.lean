import Compliance.CommandLine.Command
import Compliance.Query.Basic
import Compliance.Rule.Import
import Compliance.Scan.Report
import Compliance.Text.Table

/-!
What the commands show: a table with a line under it, or JSON.
-/

namespace Compliance.CommandLine

open Text (Table)

def tableAbove (table : Table) (text : String) : String := table.write ++ "\n" ++ text ++ "\n"

def jsonText (value : Json) : String := value.pretty ++ "\n"

def listText {α : Type} (toJson : α → Json) (toTable : List α → String) (format : Format)
    (items : List α) : String :=
  match format with
  | .json => jsonText (.array (items.map toJson))
  | .table => toTable items

def nameWithId (name id : String) : String := name ++ " (" ++ id ++ ")"

def ruleRow (rule : Rule) : List String := [
  rule.id, rule.name, rule.kind, rule.status.name, Number.fixedPlaces 2 rule.confidence,
  rule.parameters.compact,
  rule.source.getD "-"]

def rulesTable (rules : List Rule) : String :=
  tableAbove ⟨["ID", "Name", "Type", "Status", "Confidence", "Parameters", "Source"], rules.map ruleRow⟩
    (toString rules.length ++ " rule(s)")

def rulesText : Format → List Rule → String := listText Rule.toJson rulesTable

def listedRow (listed : Query.Listed) : List String :=
  let (query, binds) := match listed.result with
    | .ok query => (query.sql, ", ".intercalate (query.binds.map Rule.Literal.display))
    | .error error => ("❌ " ++ error.message, "")
  [nameWithId listed.rule.name listed.rule.id, listed.rule.kind, query, binds]

def listedTable (listed : List Query.Listed) : String :=
  tableAbove ⟨["Rule", "Type", "SQL / Error", "Binds"], listed.map listedRow⟩
    (toString listed.length ++ " rule(s), " ++ toString (listed.countP (!·.isOk)) ++
      " failed to compile")

def listedText : Format → List Query.Listed → String := listText Query.Listed.toJson listedTable

def importText (summary : Rule.ImportSummary) : String :=
  let line (rule : Rule) : String := "   ➜ " ++ rule.id ++ " [" ++ rule.kind ++ "] " ++ rule.name ++ "\n"
  "📥 Imported " ++ toString summary.accepted.length ++ " rule(s)\n" ++
    String.join (summary.accepted.map line)

def rejectionRow (rejection : Rule.Rejection) : List String :=
  [toString rejection.index, rejection.name.getD "-", rejection.reason]

def rejectionsText (rejections : List Rule.Rejection) : String :=
  if rejections = [] then ""
  else "⚠️  " ++ toString rejections.length ++ " record(s) rejected:\n"
    ++ (Table.mk ["#", "Rule", "Reason"] (rejections.map rejectionRow)).write ++ "\n"

def lineRow (line : Scan.RuleLine) : List String :=
  let detail := match line.error with
    | some error => error
    | none => if line.truncated then "row cap reached" else ""
  [nameWithId line.ruleName line.ruleId, line.outcome, toString line.matchedRows, detail]

def reportTable (report : Scan.Report) : String :=
  let cancelled :=
    if report.cancelled then "⚠️  Scan was cancelled, remaining rules were skipped.\n" else ""
  let total :=
    "\n✨ " ++ toString report.rulesEvaluated ++ " rule(s) evaluated, " ++
      toString report.rulesFailed ++ " failed, " ++ toString report.violationsFound ++
      " new violation(s) in " ++ toString report.durationMillis ++ "ms"
  tableAbove ⟨["Rule", "Outcome", "Rows", "Detail"], report.rules.map lineRow⟩ (cancelled ++ total)

def reportText (format : Format) (report : Scan.Report) : String :=
  match format with
  | .json => jsonText report.toJson
  | .table => reportTable report

def viewRow (view : Violation.View) : List String :=
  let v := view.violation
  [v.createdAt.minuteText, view.ruleName ++ " [" ++ view.ruleKind ++ "]", v.table, v.recordId,
    v.severity.name, v.status.name, (Json.object v.evidence).compact]

def viewsTable (views : List Violation.View) : String :=
  tableAbove ⟨["Created", "Rule", "Table", "Record", "Severity", "Status", "Evidence"],
    views.map viewRow⟩
    (toString views.length ++ " violation(s)")

def viewsText : Format → List Violation.View → String := listText Violation.View.toJson viewsTable

end Compliance.CommandLine
