import Compliance.Catalog
import Compliance.Query.Predicate
import Compliance.Rule.Basic
import Compliance.Sql.Parser

/-!
The query for the rows that violate a rule.

A query shows every column of its table as text and filters by predicates joined with `AND`. Its
names come from the catalog, never from the rule, and its literals are bound. The finished text is
read back before it is given out.
-/

namespace Compliance

open Rule (CompileError Literal Target)

structure Query where
  sql : String
  binds : List Literal
  table : String
  columns : List String
  primaryKey : String
  deriving DecidableEq, Repr, Inhabited

namespace Query

def limited (q : Query) (rows : Nat) : String := q.sql ++ " LIMIT " ++ toString rows

def keyIndex (q : Query) : Nat := (q.columns.findIdx? (· = q.primaryKey)).getD 0

structure Subject where
  table : TableSchema
  primaryKey : String
  deriving DecidableEq, Repr, Inhabited

def Subject.find (catalog : Catalog) (target : Target) : Except CompileError Subject := do
  let table ← catalog.table target.table
  match target.primaryKey, table.columns with
  | some key, _ => return ⟨table, ← table.column key⟩
  | none, first :: _ => return ⟨table, first⟩
  | none, [] => throw (.unknownIdentifier target.table)

def shownColumn (column : String) : String :=
  let c := Sql.Identifier.quote column
  asText c ++ " AS " ++ c

def textOf (table : TableSchema) (predicates : List Predicate) : String :=
  "SELECT " ++ ", ".intercalate (table.columns.map shownColumn) ++ " FROM " ++
    Sql.Identifier.quote table.name
    ++ " WHERE " ++ " AND ".intercalate (predicates.map Predicate.text)

def build (subject : Subject) (predicates : List Predicate) : Except CompileError Query := do
  if predicates = [] then throw (.malformedQuery .noPredicate)
  let sql := textOf subject.table predicates
  (Sql.checkSelect sql).mapError .malformedQuery
  return ⟨sql, predicates.flatMap Predicate.binds, subject.table.name, subject.table.columns,
    subject.primaryKey⟩

def violation (table : TableSchema) : Rule.Condition → Except CompileError Predicate
  | .threshold column operator value => do return .compare (← table.column column) operator.invert value
  | .dateDifference start finish maxDays => do
    return .daysExceed (← table.column start) (← table.column finish) maxDays
  | .notNull column => do return .blank (← table.column column)
  | .pattern column regex => do return .notMatching (← table.column column) regex

def ofSpec (catalog : Catalog) (spec : Rule.Spec) : Except CompileError Query := do
  let subject ← Subject.find catalog spec.target
  build subject [← violation subject.table spec.condition]

def compile (catalog : Catalog) (rule : Rule) : Except Rule.CompileError Query := do
  ofSpec catalog (← rule.spec)

/-! Compiling rules without running anything -/

structure Listed where
  rule : Rule
  result : Except Rule.CompileError Query

def Listed.ofRule (catalog : Catalog) (rule : Rule) : Listed := ⟨rule, compile catalog rule⟩

def Listed.isOk (listed : Listed) : Bool :=
  match listed.result with
  | .ok _ => true
  | .error _ => false

def listing (catalog : Catalog) (rules : List Rule) : List Listed := rules.map (Listed.ofRule catalog)

def toJson (q : Query) : Json := .object [
  ("sql_text", .text q.sql), ("bind_parameters", .array (q.binds.map Rule.Literal.toJson)),
  ("target_table", .text q.table), ("projected_columns", .array (q.columns.map Json.text)),
  ("primary_key_hint", .text q.primaryKey)]

def Listed.toJson (listed : Listed) : Json := .object (
  [("rule_id", .text listed.rule.id), ("rule_name", .text listed.rule.name),
    ("rule_type", .text listed.rule.kind)]
  ++ match listed.result with
    | .ok q => [("query", q.toJson)]
    | .error error => [("error", .text error.message)])

end Query

end Compliance
