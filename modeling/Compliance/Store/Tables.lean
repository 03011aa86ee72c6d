import Compliance.Store.Basic

/-!
Making, filling and dropping tables.

Rows are given as cells of text, which are converted to the types of their columns; a row of the
bookkeeping may leave out what has a default. Rows given together are added all or not at all.
-/

namespace Compliance.Store

open Database

def withRules (s : Store) : Except Fault Store :=
  match s.rules with
  | some table => .ok { s with rules := some { table with hasSource := true } }
  | none =>
    match s.find? rulesName with
    | some ⟨_, _, .stored _⟩ => .ok s
    | some relation => .error (.wrongKind relation.name)
    | none => .ok { s with rules := some ⟨[], true⟩ }

def withViolations (s : Store) : Except Fault Store :=
  match s.violations with
  | some _ => .ok s
  | none =>
    match s.find? violationsName with
    | some relation => .error (.wrongKind relation.name)
    | none => .ok { s with violations := some [] }

def bootstrap (s : Store) : Except Fault Store := do (← s.withRules).withViolations

def add (s : Store) (relation : Relation) : Except Fault Store :=
  if s.isTaken relation.name then .error (.nameTaken relation.name)
  else .ok { s with relations := s.relations ++ [relation] }

def createTable (s : Store) (name : String) (columns : List (String × String)) : Except Fault Store := do
  if columns = [] then throw (.rowWidth 1 0)
  let columns ← columns.mapM readColumn
  if hasRepeatedName (columns.map (·.name)) then throw (.nameTaken name)
  s.add ⟨name, columns, .stored []⟩

def createView (s : Store) (name of : String) : Except Fault Store :=
  match s.find? of with
  | some relation => s.add ⟨name, relation.columns, .view of⟩
  | none => .error (.unknownTable of)

def createEndless (s : Store) (name : String) (columns : List Column) : Except Fault Store :=
  s.add ⟨name, columns, .endless⟩

def modify (s : Store) (name : String) (f : Relation → Except Fault Relation) : Except Fault Store := do
  let relations ← s.relations.mapM fun r => if equalIgnoringCase r.name name then f r else .ok r
  return { s with relations }

def insertInto (rows : List (List (Option String))) (relation : Relation) : Except Fault Relation :=
  match relation.source with
  | .stored stored => do
    let rows ← rows.mapM (readRow relation.columns)
    return { relation with source := .stored (stored ++ rows) }
  | _ => .error (.wrongKind relation.name)

def clear (relation : Relation) : Except Fault Relation :=
  match relation.source with
  | .stored _ => .ok { relation with source := .stored [] }
  | _ => .error (.wrongKind relation.name)

def addRuleCells (now : Instant) (cells : Cells) (table : RuleTable) : Except Fault RuleTable := do
  checkColumns (RuleRow.visibleColumns table) cells
  let row ← RuleRow.ofCells now cells
  return { table with rows := ← addRow RuleRow.id row table.rows }

def addViolationCells (now : Instant) (cells : Cells) (rows : List ViolationRow) :
    Except Fault (List ViolationRow) := do
  addRow ViolationRow.id (← ViolationRow.ofCells now cells) rows

def insertRuleCells (s : Store) (now : Instant) (cells : Cells) : Except Fault Store := do
  return { s with rules := some (← addRuleCells now cells (← s.ruleTable)) }

def insertViolationCells (s : Store) (now : Instant) (cells : Cells) : Except Fault Store := do
  return { s with violations := some (← addViolationCells now cells (← s.violationRows)) }

def nameCells (columns : List Column) (row : List (Option String)) : Except Fault Cells :=
  if row.length = columns.length then .ok ((columns.map (·.name)).zip row)
  else .error (.rowWidth columns.length row.length)

def insertRows (s : Store) (now : Instant) (name : String) (rows : List (List (Option String))) :
    Except Fault Store := do
  if s.isRules name then
    let table ← s.ruleTable
    rows.foldlM (fun s row => do
      s.insertRuleCells now (← nameCells (RuleRow.visibleColumns table) row)) s
  else if s.isViolations name then
    rows.foldlM (fun s row => do s.insertViolationCells now (← nameCells ViolationRow.columns row)) s
  else if !s.isTaken name then throw (.unknownTable name)
  else s.modify name (insertInto rows)

def deleteRows (s : Store) (name : String) : Except Fault Store :=
  if s.isRules name then .ok { s with rules := s.rules.map fun table => { table with rows := [] } }
  else if s.isViolations name then .ok { s with violations := some [] }
  else if !s.isTaken name then .error (.unknownTable name)
  else s.modify name clear

def dropTable (s : Store) (name : String) : Except Fault Store :=
  if s.isRules name then .ok { s with rules := none }
  else if s.isViolations name then .ok { s with violations := none }
  else match s.find? name with
    | some ⟨_, _, .stored _⟩ =>
      .ok { s with relations := s.relations.filter fun r => !equalIgnoringCase r.name name }
    | some _ => .error (.wrongKind name)
    | none => .error (.unknownTable name)

def setRuleStatus (s : Store) (name : String) (status : Option String) : Except Fault Store := do
  let table ← s.ruleTable
  match status with
  | some status =>
    let rows := table.rows.map fun row => if row.name = name then { row with status } else row
    return { s with rules := some { table with rows } }
  | none => if table.rows.any (·.name = name) then throw (.nullNotAllowed "status") else return s

def setViolationStatus (s : Store) (recordId : String) (status : Option String) :
    Except Fault Store := do
  let rows ← s.violationRows
  match status with
  | some status =>
    let rows := rows.map fun row => if row.recordId = recordId then { row with status } else row
    return { s with violations := some rows }
  | none => if rows.any (·.recordId = recordId) then throw (.nullNotAllowed "status") else return s

end Compliance.Store
