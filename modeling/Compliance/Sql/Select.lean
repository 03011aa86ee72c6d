import Compliance.Rule.Operator

/-!
Queries as trees.

Of the expressions, those that the store evaluates have a shape of their own; the others are kept as
what they are made of. A select is plain if it reads tables and does nothing but filter and cut off
their rows.
-/

namespace Compliance.Sql

inductive Expr
  | column (path : List String)
  | placeholder (index : Nat)
  | number (digits : String)
  | text (s : String)
  | null
  | boolean (b : Bool)
  | cast (e : Expr) (type : String)
  | call (function : String) (arguments : List Expr)
  | compare (operator : Rule.Operator) (left right : Expr)
  | isNull (e : Expr)
  | not (e : Expr)
  | and (left right : Expr)
  | or (left right : Expr)
  | other (parts : List Expr)
  deriving Repr, Inhabited

structure Item where
  value : Expr
  asName : Option String
  deriving Repr, Inhabited

structure Select where
  items : List Item
  tables : List (List String)
  filter : Option Expr
  plain : Bool
  deriving Repr, Inhabited

inductive Body
  | select (s : Select)
  | values
  | table
  | setOperation
  | nested
  /-- A statement that changes rows, in the place of a query. -/
  | change
  deriving Repr, Inhabited

structure Query where
  body : Body
  limit : Option Expr
  plain : Bool
  deriving Repr, Inhabited

inductive Statement
  | query (q : Query)
  | other
  deriving Repr, Inhabited

end Compliance.Sql
