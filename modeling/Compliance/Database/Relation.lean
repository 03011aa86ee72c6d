import Compliance.Catalog
import Compliance.Database.Value

/-!
Tables and views, and the reasons for which the database refuses something.
-/

namespace Compliance.Database

inductive Fault
  | unknownTable (name : String)
  | unknownColumn (name : String)
  | unknownType (name : String)
  | nameTaken (name : String)
  | wrongKind (name : String)
  | changedView (name : String)
  | rowWidth (expected given : Nat)
  | notConvertible (text : String) (type : ColumnType)
  | notComparable (left right : ColumnType)
  | wrongArgument (function : String)
  | badPattern (pattern : String)
  | nullNotAllowed (column : String)
  | duplicateKey (key : String)
  | unsupported (what : String)
  deriving DecidableEq, Repr, Inhabited

namespace Fault

def message : Fault → String
  | unknownTable name => "Table with name " ++ name ++ " does not exist"
  | unknownColumn name => "Referenced column \"" ++ name ++ "\" not found"
  | unknownType name => "Type with name " ++ name ++ " does not exist"
  | nameTaken name => "An entry with name \"" ++ name ++ "\" already exists"
  | wrongKind name => "Existing object " ++ name ++ " is of another kind"
  | changedView name => "Contents of view " ++ name ++ " were altered"
  | rowWidth expected given =>
    "table has " ++ toString expected ++ " columns but " ++ toString given ++ " values were supplied"
  | notConvertible text _ => "Could not convert string '" ++ text ++ "'"
  | notComparable _ _ => "Cannot compare values of these types"
  | wrongArgument function => "No function matches the given argument types of " ++ function
  | badPattern pattern => "invalid pattern: " ++ pattern
  | nullNotAllowed column => "NOT NULL constraint failed: " ++ column
  | duplicateKey key => "Duplicate key \"" ++ key ++ "\" violates primary key constraint"
  | unsupported what => "Not supported: " ++ what

end Fault

structure Column where
  name : String
  type : ColumnType
  deriving DecidableEq, Repr, Inhabited

inductive Source
  | stored (rows : List (List Value))
  | view (of : String)
  | endless
  deriving DecidableEq, Repr, Inhabited

structure Relation where
  name : String
  columns : List Column
  source : Source
  deriving DecidableEq, Repr, Inhabited

namespace Relation

def columnNames (r : Relation) : List String := r.columns.map (·.name)

def schema (r : Relation) : TableSchema := ⟨r.name, r.columnNames⟩

end Relation

def hasRepeatedName : List String → Bool
  | [] => false
  | name :: rest => rest.any (equalIgnoringCase name) || hasRepeatedName rest

def readColumn (column : String × String) : Except Fault Column :=
  match ColumnType.ofName? column.2 with
  | some type => .ok ⟨column.1, type⟩
  | none => .error (.unknownType column.2)

def readCell (type : ColumnType) : Option String → Except Fault Value
  | none => .ok .null
  | some s =>
    match Value.ofText? type s with
    | some value => .ok value
    | none => .error (.notConvertible s type)

def readRow (columns : List Column) (cells : List (Option String)) : Except Fault (List Value) :=
  if cells.length ≠ columns.length then .error (.rowWidth columns.length cells.length)
  else (columns.zip cells).mapM fun (column, cell) => readCell column.type cell

end Compliance.Database
