import Compliance.Database.Relation
import Compliance.Search.Reader
import Compliance.Sql.Select

/-!
Expressions of a query over the rows of a relation.

An expression is resolved once (`Term.ofExpr`): names become positions, placeholders become the
bound literals, and the conversions are written out, so that a fault of the query shows without a
row. Then every row gives the term a value, by a logic of three values in which null stands for the
unknown, or a fault of the row.
-/

namespace Compliance.Database

inductive Term
  | column (index : Nat)
  | literal (value : Value)
  | convert (type : ColumnType) (t : Term)
  | asText (t : Term)
  | daysBetween (start finish : Term)
  | search (e : Search.Expression) (t : Term)
  | compare (operator : Rule.Operator) (left right : Term)
  | isNull (t : Term)
  | not (t : Term)
  | and (left right : Term)
  | or (left right : Term)
  deriving DecidableEq, Repr, Inhabited

structure Scope where
  relation : String
  columns : List Column
  binds : List Rule.Literal
  deriving DecidableEq, Repr

namespace Scope

def column (scope : Scope) (name : String) : Except Fault (Term × ColumnType) :=
  match scope.columns.findIdx? (fun column => equalIgnoringCase column.name name) with
  | none => .error (.unknownColumn name)
  | some index =>
    match scope.columns[index]? with
    | some column => .ok (.column index, column.type)
    | none => .error (.unknownColumn name)

def path (scope : Scope) : List String → Except Fault (Term × ColumnType)
  | [name] => scope.column name
  | [relation, name] =>
    if equalIgnoringCase relation scope.relation then scope.column name
    else .error (.unknownTable relation)
  | names => .error (.unknownColumn (".".intercalate names))

end Scope

namespace Term

/-- The term in another type. A literal is converted at once. -/
def inType (type : ColumnType) (term : Term × ColumnType) : Except Fault Term :=
  if term.2 = type then .ok term.1
  else match term.1 with
    | literal value =>
      match value.convert? type with
      | some value => .ok (literal value)
      | none => .error (.notConvertible (value.text?.getD "NULL") type)
    | t => .ok (convert type t)

def comparison (operator : Rule.Operator) (left right : Term × ColumnType) :
    Except Fault (Term × ColumnType) :=
  match ColumnType.common? left.2 right.2 with
  | none => .error (.notComparable left.2 right.2)
  | some type => do return (compare operator (← inType type left) (← inType type right), .boolean)

def condition (function : String) (term : Term × ColumnType) : Except Fault Term :=
  if term.2 = .boolean then .ok term.1 else .error (.wrongArgument function)

def momentOf (term : Term × ColumnType) : Except Fault Term :=
  match term.2 with
  | .date | .timestamp => inType .timestamp term
  | _ => .error (.wrongArgument "date_diff")

def searchIn (text : Term × ColumnType) (pattern : Term × ColumnType) :
    Except Fault (Term × ColumnType) :=
  match text.2, pattern.1 with
  | .text, literal (.text pattern) =>
    match Search.Expression.ofText? pattern with
    | some e => .ok (search e text.1, .boolean)
    | none => .error (.badPattern pattern)
  | _, _ => .error (.wrongArgument "regexp_matches")

def textOf (term : Term × ColumnType) : Term × ColumnType :=
  if term.2 = .text then term else (asText term.1, .text)

def ofExpr (scope : Scope) : Sql.Expr → Except Fault (Term × ColumnType)
  | .column path => scope.path path
  | .placeholder index =>
    match scope.binds[index]? with
    | some bound => let (value, type) := Value.ofLiteral bound; .ok (literal value, type)
    | none => .error (.unsupported "placeholder without a value")
  | .text s => .ok (literal (.text s), .text)
  | .boolean b => .ok (literal (.boolean b), .boolean)
  | .cast e type => do
    let term ← ofExpr scope e
    if ColumnType.ofName? type = some .text then return textOf term
    else .error (.unsupported "conversion")
  | .compare operator left right => do comparison operator (← ofExpr scope left) (← ofExpr scope right)
  | .isNull e => do return (isNull (← ofExpr scope e).1, .boolean)
  | .not e => do return (not (← condition "NOT" (← ofExpr scope e)), .boolean)
  | .and left right => do
    return (and (← condition "AND" (← ofExpr scope left))
      (← condition "AND" (← ofExpr scope right)), .boolean)
  | .or left right => do
    return (or (← condition "OR" (← ofExpr scope left))
      (← condition "OR" (← ofExpr scope right)), .boolean)
  | .call "date_diff" [.text "day", start, finish] => do
    return (daysBetween (← momentOf (← ofExpr scope start))
      (← momentOf (← ofExpr scope finish)), .bigint)
  | .call "regexp_matches" [text, pattern] => do searchIn (← ofExpr scope text) (← ofExpr scope pattern)
  | _ => .error (.unsupported "expression")

def midnights : Value → Value → Value
  | .timestamp (.finite a), .timestamp (.finite b) =>
    .integer (b / Instant.microsPerDay - a / Instant.microsPerDay)
  | _, _ => .null

def compared (operator : Rule.Operator) : Value → Value → Value
  | .null, _ | _, .null => .null
  | left, right => .boolean (operator.holdsOf (left.order right))

def negated : Value → Value
  | .boolean b => .boolean !b
  | _ => .null

def conjunction : Value → Value → Value
  | .boolean false, _ | _, .boolean false => .boolean false
  | .boolean true, .boolean true => .boolean true
  | _, _ => .null

def disjunction : Value → Value → Value
  | .boolean true, _ | _, .boolean true => .boolean true
  | .boolean false, .boolean false => .boolean false
  | _, _ => .null

def found (e : Search.Expression) : Value → Value
  | .text s => .boolean (e.matchesText s)
  | _ => .null

def toText (value : Value) : Value :=
  match value.text? with
  | some s => .text s
  | none => .null

def value (row : List Value) : Term → Except Fault Value
  | column index => .ok (row[index]?.getD .null)
  | literal value => .ok value
  | convert type t => do
    let value ← t.value row
    match value.convert? type with
    | some value => return value
    | none => .error (.notConvertible (value.text?.getD "NULL") type)
  | asText t => do return toText (← t.value row)
  | daysBetween start finish => do return midnights (← start.value row) (← finish.value row)
  | search e t => do return found e (← t.value row)
  | compare operator left right => do return compared operator (← left.value row) (← right.value row)
  | isNull t => do return .boolean ((← t.value row) = .null)
  | not t => do return negated (← t.value row)
  | and left right => do return conjunction (← left.value row) (← right.value row)
  | or left right => do return disjunction (← left.value row) (← right.value row)

end Term

end Compliance.Database
