import Compliance.Database.Term
import Compliance.Sql.Parser

/-!
Running a select over the tables it reads.

The rows keep their order. A row is kept if the filter is true of it, neither false nor unknown; the
limit counts the rows that are kept. A relation without an end answers no select whose filter has to
look at all of it.
-/

namespace Compliance.Database

structure Plan where
  filter : Option Term
  items : List Term
  limit : Option Nat
  deriving DecidableEq, Repr, Inhabited

namespace Plan

def limitOf : Option Sql.Expr → Except Fault (Option Nat)
  | none => .ok none
  | some (.number digits) =>
    match Number.natOfDigits? digits.toList with
    | some n => .ok (some n)
    | none => .error (.unsupported "limit")
  | some _ => .error (.unsupported "limit")

def ofQuery (scope : Scope) (query : Sql.Query) (select : Sql.Select) : Except Fault Plan := do
  if !(query.plain && select.plain) then throw (.unsupported "clause")
  let items ← select.items.mapM fun item => do return (Term.textOf (← Term.ofExpr scope item.value)).1
  let filter ← match select.filter with
    | none => pure none
    | some e => do pure (some (← Term.condition "WHERE" (← Term.ofExpr scope e)))
  return ⟨filter, items, ← limitOf query.limit⟩

def keeps (plan : Plan) (row : List Value) : Except Fault Bool :=
  match plan.filter with
  | none => .ok true
  | some term => do return (← term.value row) = .boolean true

def shown (plan : Plan) (row : List Value) : Except Fault (List (Option String)) :=
  plan.items.mapM fun item => do return (← item.value row).text?

def kept (plan : Plan) : List (List Value) → Except Fault (List (List Value))
  | [] => .ok []
  | row :: rest => do
    let keep ← plan.keeps row
    let rest ← plan.kept rest
    return if keep then row :: rest else rest

def rows (plan : Plan) (stored : List (List Value)) : Except Fault (List (List (Option String))) := do
  let kept ← plan.kept stored
  let kept := match plan.limit with
    | some limit => kept.take limit
    | none => kept
  kept.mapM plan.shown

end Plan

inductive Answer
  | rows (rows : List (List (Option String)))
  | endless
  deriving DecidableEq, Repr, Inhabited

abbrev Lookup := String → Option Relation

/-- The rows of a relation, through the views on it; nothing if there is no end to them. The fuel
bounds the views on views. -/
def Relation.stored (find : Lookup) : Nat → Relation → Except Fault (Option (List (List Value)))
  | _, ⟨_, _, .stored rows⟩ => .ok (some rows)
  | _, ⟨_, _, .endless⟩ => .ok none
  | 0, ⟨name, _, .view _⟩ => .error (.unknownTable name)
  | fuel + 1, ⟨name, columns, .view of⟩ =>
    match find of with
    | none => .error (.unknownTable of)
    | some relation =>
      if relation.columns = columns then relation.stored find fuel else .error (.changedView name)

def crossed : List (List (List Value)) → List (List Value)
  | [] => [[]]
  | rows :: others => rows.flatMap fun row => (crossed others).map (row ++ ·)

def findTable (find : Lookup) : List String → Except Fault Relation
  | [name] =>
    match find name with
    | none => .error (.unknownTable name)
    | some relation => .ok relation
  | _ => .error (.unsupported "relation")

/-- Several tables as one without a name. A name must not stand for a column of each of two. -/
def sideBySide (find : Lookup) (depth : Nat) (relations : List Relation) : Except Fault Relation := do
  let columns := relations.flatMap (·.columns)
  if relations.isEmpty || hasRepeatedName (columns.map (·.name)) then throw (.unsupported "relation")
  let stored ← relations.mapM (·.stored find depth)
  return ⟨"", columns, match stored.mapM id with
    | some parts => .stored (crossed parts)
    | none => .endless⟩

def readRelation (find : Lookup) (depth : Nat) : List (List String) → Except Fault Relation
  | [path] => findTable find path
  | paths => do sideBySide find depth (← paths.mapM (findTable find))

/-- Runs the text of a query with its bound literals; `depth` bounds the views on views. -/
def runQuery (find : Lookup) (depth : Nat) (text : String) (binds : List Rule.Literal) :
    Except Fault Answer := do
  let query ← match Sql.readSelect text with
    | .ok query => pure query
    | .error _ => throw (.unsupported "statement")
  match query.body with
  | .select select =>
    let relation ← readRelation find depth select.tables
    let plan ← Plan.ofQuery ⟨relation.name, relation.columns, binds⟩ query select
    match ← relation.stored find depth with
    | some rows => return .rows (← plan.rows rows)
    | none => return .endless
  | _ => throw (.unsupported "query")

end Compliance.Database
