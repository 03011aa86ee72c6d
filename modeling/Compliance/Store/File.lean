import Compliance.Store.Basic

/-!
The store as JSON, for the file that keeps it.

Every relation is written with its columns and the texts of its rows, and read back by converting
the texts to the types of the columns.
-/

namespace Compliance

namespace Database.ColumnType

def name (type : ColumnType) : String := ((names.find? (·.2 = type)).map (·.1)).getD ""

end Database.ColumnType

namespace Store

open Database

def rowJson (row : List Value) : Json := .array (row.map fun value => Json.ofText? value.text?)

def sourceJson : Source → String × Json
  | .stored rows => ("rows", .array (rows.map rowJson))
  | .view of => ("of", .text of)
  | .endless => ("endless", .bool true)

def relationJson (r : Relation) : Json := .object [
  ("name", .text r.name),
  ("columns", .array (r.columns.map fun c => .array [.text c.name, .text c.type.name])),
  sourceJson r.source]

def rulesJson (table : RuleTable) : Json := .object [
  ("has_source", .bool table.hasSource), ("rows", .array (table.rows.map fun row => rowJson row.values))]

def partJson {α : Type} (toJson : α → Json) : Option α → Json
  | some part => toJson part
  | none => .null

def toJson (s : Store) : Json := .object [
  ("rules", partJson rulesJson s.rules),
  ("violations", partJson (fun rows => .array (rows.map fun row => rowJson row.values)) s.violations),
  ("relations", .array (s.relations.map relationJson))]

def cellsOfJson (row : Json) : List (Option String) := row.items.map Json.text?

def columnOfJson? (value : Json) : Option Column :=
  match cellsOfJson value with
  | [some name, some type] => (ColumnType.ofName? type).map (⟨name, ·⟩)
  | _ => none

def sourceOfJson? (columns : List Column) (value : Json) : Option Source :=
  match value.get? "rows", value.get? "of" with
  | some rows, _ => (rows.items.mapM fun row => (readRow columns (cellsOfJson row)).toOption).map .stored
  | none, some of => of.text?.map .view
  | none, none => some .endless

def relationOfJson? (value : Json) : Option Relation := do
  let name ← (← value.get? "name").text?
  let columns ← (← value.get? "columns").items.mapM columnOfJson?
  return ⟨name, columns, ← sourceOfJson? columns value⟩

def namedCells (columns : List Column) (row : Json) : Cells :=
  (columns.map (·.name)).zip (cellsOfJson row)

def ruleRowOfJson? (row : Json) : Option RuleRow :=
  (RuleRow.ofCells (.finite 0) (namedCells RuleRow.columns row)).toOption

def violationRowOfJson? (row : Json) : Option ViolationRow :=
  (ViolationRow.ofCells (.finite 0) (namedCells ViolationRow.columns row)).toOption

def rulesOfJson? (value : Json) : Option RuleTable := do
  let rows ← (← value.get? "rows").items.mapM ruleRowOfJson?
  return ⟨rows, value.get? "has_source" = some (.bool true)⟩

def partOfJson? {α : Type} (read : Json → Option α) (value : Json) : Option (Option α) :=
  if value = .null then some none else (read value).map some

def ofJson? (value : Json) : Option Store := do
  let rules ← partOfJson? rulesOfJson? (← value.get? "rules")
  let violations ← partOfJson? (fun rows => rows.items.mapM violationRowOfJson?)
    (← value.get? "violations")
  return ⟨rules, violations, ← (← value.get? "relations").items.mapM relationOfJson?⟩

def fileText (s : Store) : String := s.toJson.compact

def ofFileText? (text : String) : Option Store :=
  if text = "" then some empty else (Json.parse? text).bind ofJson?

end Store

end Compliance
