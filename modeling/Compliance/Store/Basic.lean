import Compliance.Store.Row

/-!
The store: the bookkeeping of rules and violations, and the relations that rules look at.

Either table of the bookkeeping may be missing, and names are unique over all relations, the case of
ASCII letters aside. Every operation that may fail gives the new store or nothing, so that a failure
leaves the store as it was.
-/

namespace Compliance

open Database

structure RuleTable where
  rows : List Store.RuleRow
  hasSource : Bool
  deriving DecidableEq, Repr, Inhabited

structure Store where
  rules : Option RuleTable
  violations : Option (List Store.ViolationRow)
  relations : List Relation
  deriving DecidableEq, Repr, Inhabited

namespace Store

def empty : Store := ⟨none, none, []⟩

def RuleRow.visibleColumns (table : RuleTable) : List Column :=
  if table.hasSource then RuleRow.columns else RuleRow.columns.dropLast

def rulesRelation (table : RuleTable) : Relation :=
  let columns := RuleRow.visibleColumns table
  ⟨rulesName, columns, .stored (table.rows.map fun row => row.values.take columns.length)⟩

def violationsRelation (rows : List ViolationRow) : Relation :=
  ⟨violationsName, ViolationRow.columns, .stored (rows.map ViolationRow.values)⟩

def allRelations (s : Store) : List Relation :=
  (s.rules.map rulesRelation).toList ++ (s.violations.map violationsRelation).toList ++ s.relations

def find? (s : Store) (name : String) : Option Relation :=
  s.allRelations.find? (equalIgnoringCase ·.name name)

def isTaken (s : Store) (name : String) : Bool := (s.find? name).isSome

def isRules (s : Store) (name : String) : Bool := s.rules.isSome && equalIgnoringCase name rulesName

def isViolations (s : Store) (name : String) : Bool :=
  s.violations.isSome && equalIgnoringCase name violationsName

def addRow {α : Type} (id : α → String) (row : α) (rows : List α) : Except Fault (List α) :=
  if rows.any (id · = id row) then .error (.duplicateKey (id row)) else .ok (rows ++ [row])

def ruleTable (s : Store) : Except Fault RuleTable :=
  match s.rules with
  | some table => .ok table
  | none => .error (.unknownTable rulesName)

def violationRows (s : Store) : Except Fault (List ViolationRow) :=
  match s.violations with
  | some rows => .ok rows
  | none => .error (.unknownTable violationsName)

end Store

end Compliance
