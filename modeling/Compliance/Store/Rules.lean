import Compliance.Query.Basic
import Compliance.Store.Basic

/-!
The stored rules.

Rules are selected by the status that their rows name exactly, and come by their times and then by
their identities. One row among them that reads as no rule fails them all. Rules are inserted all or
not at all.
-/

namespace Compliance.Store

open Database

def asFailure {α : Type} (result : Except Fault α) : Except Failure α :=
  result.mapError fun fault => .database fault.message

/-- The row of a rule; one whose time cannot be kept has none. -/
def rowOfRule (rule : Rule) : Except Fault RuleRow :=
  match RuleRow.ofRule? rule with
  | some row => .ok row
  | none => .error (.notConvertible rule.createdAt.write .timestamp)

def addRule (table : RuleTable) (rule : Rule) : Except Fault RuleTable := do
  if !table.hasSource then throw (.unknownColumn "source_document")
  return { table with rows := ← addRow RuleRow.id (← rowOfRule rule) table.rows }

def insertRules (rules : List Rule) (s : Store) : Except Failure Store := asFailure do
  if rules = [] then return s
  return { s with rules := some (← rules.foldlM addRule (← s.ruleTable)) }

def ruleRows (s : Store) : Except Failure (List RuleRow) := asFailure do
  let table ← s.ruleTable
  if !table.hasSource then throw (.unknownColumn "source_document")
  return table.rows

def fetchRules (statuses : List Rule.Status) (s : Store) : Except Failure (List Rule) := do
  if statuses = [] then return []
  let rows := (← s.ruleRows).filter fun row => statuses.any (·.name = row.status)
  (rows.mergeSort RuleRow.before).mapM RuleRow.toRule

def listRules (status : Option Rule.Status) (s : Store) : Except Failure (List Rule) :=
  s.fetchRules (match status with
    | some status => [status]
    | none => Rule.Status.all)

def rule? (id : String) (s : Store) : Except Failure (Option Rule) := do
  match (← s.ruleRows).find? (·.id = id) with
  | some row => return some (← row.toRule)
  | none => return none

def catalog (s : Store) : Except Failure Catalog :=
  let relations := s.relations.mergeSort fun a b => a.name ≤ b.name
  let columns := relations.flatMap fun r => r.columnNames.map (r.name, ·)
  .ok ((Catalog.ofColumns columns).eraseAll [rulesName, violationsName])

def rulesToCompile (id : Option String) (s : Store) : Except Failure (List Rule) :=
  match id with
  | none => s.fetchRules Rule.Status.scannable
  | some id => do
    match ← s.rule? id with
    | some rule => return [rule]
    | none => throw (.domain (.ruleNotFound id))

def compileRules (id : Option String) (s : Store) : Except Failure (List Query.Listed) := do
  let rules ← s.rulesToCompile id
  return Query.listing (← s.catalog) rules

end Compliance.Store
