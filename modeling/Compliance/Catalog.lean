import Compliance.Json.Basic
import Compliance.Rule.CompileError
import Compliance.Text.Lowercase

/-!
The tables and columns that rules may refer to.

Tables are kept in the order of their names in small letters, and are found by them; a table without
columns is not found. A column is found in any ASCII case and always named as the table spells it.
-/

namespace Compliance

open Rule (CompileError)

structure TableSchema where
  name : String
  columns : List String
  deriving DecidableEq, Repr, Inhabited

def asciiLower (s : String) : List Char := s.toList.map Char.toLower

def equalIgnoringCase (a b : String) : Bool := asciiLower a = asciiLower b

namespace TableSchema

def column? (table : TableSchema) (name : String) : Option String :=
  table.columns.find? (equalIgnoringCase · name)

def column (table : TableSchema) (name : String) : Except CompileError String :=
  match table.column? name with
  | some column => .ok column
  | none => .error (.unknownIdentifier (table.name ++ "." ++ name))

end TableSchema

structure Catalog where
  /-- The tables with their names in small letters, in the order of these. -/
  entries : List (String × TableSchema)
  deriving DecidableEq, Repr, Inhabited

namespace Catalog

def empty : Catalog := ⟨[]⟩

def isEmpty (c : Catalog) : Bool := c.entries.isEmpty

def insert (c : Catalog) (table : TableSchema) : Catalog :=
  ⟨insertKey (Text.lowercase table.name) table c.entries⟩

/-- Adds a column to its table, which is spelled as it was first met. -/
def addColumn (c : Catalog) (table column : String) : Catalog :=
  match c.entries.lookup (Text.lowercase table) with
  | some schema =>
    ⟨insertKey (Text.lowercase table) { schema with columns := schema.columns ++ [column] } c.entries⟩
  | none => c.insert ⟨table, [column]⟩

def ofColumns (pairs : List (String × String)) : Catalog :=
  pairs.foldl (fun c pair => c.addColumn pair.1 pair.2) empty

def erase (c : Catalog) (name : String) : Catalog :=
  ⟨c.entries.filter fun entry => entry.1 ≠ Text.lowercase name⟩

def eraseAll (c : Catalog) (names : List String) : Catalog := names.foldl erase c

def table? (c : Catalog) (name : String) : Option TableSchema :=
  (c.entries.lookup (Text.lowercase name)).filter fun table => table.columns ≠ []

def table (c : Catalog) (name : String) : Except CompileError TableSchema :=
  match c.table? name with
  | some table => .ok table
  | none => .error (.unknownIdentifier name)

def tables (c : Catalog) : List TableSchema := c.entries.map (·.2)

end Catalog

end Compliance
