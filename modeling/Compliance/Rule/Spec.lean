import Compliance.Pattern.Grammar
import Compliance.Rule.CompileError
import Compliance.Rule.Literal
import Compliance.Rule.Operator
import Compliance.Text.Blank
import Compliance.Text.Lowercase

/-!
The kinds of rules, and their typed parameters.

`Spec.read` turns the free parameters of a record into a target and a condition. It looks at the
parameters in a fixed order, the first that does not fit being the error: the target first, then
those of the kind. Text has the blanks at its ends taken off and may not be blank; null counts as
left out.
-/

namespace Compliance.Rule

inductive Kind
  | threshold | dateDifference | notNull | pattern
  deriving DecidableEq, Repr, Inhabited

namespace Kind

def all : List Kind := [threshold, dateDifference, notNull, pattern]

def name : Kind → String
  | threshold => "threshold"
  | dateDifference => "date_difference"
  | notNull => "not_null"
  | pattern => "pattern"

def ofName? (text : String) : Option Kind :=
  (all.map fun kind => (kind.name, kind)).lookup (Text.lowercase (Text.trim text))

end Kind

structure Target where
  table : String
  primaryKey : Option String
  deriving DecidableEq, Repr, Inhabited

inductive Condition
  | threshold (column : String) (operator : Operator) (value : Literal)
  | dateDifference (start finish : String) (maxDays : Nat)
  | notNull (column : String)
  | pattern (column regex : String)
  deriving DecidableEq, Repr, Inhabited

def Condition.kind : Condition → Kind
  | threshold .. => .threshold
  | dateDifference .. => .dateDifference
  | notNull .. => .notNull
  | pattern .. => .pattern

structure Spec where
  target : Target
  condition : Condition
  deriving DecidableEq, Repr, Inhabited

def Operator.read (text : String) : Except CompileError Operator :=
  match Operator.ofSymbol? (Text.trim text) with
  | some op => .ok op
  | none => .error (.unsupportedOperator (Text.trim text))

def Kind.read (text : String) : Except CompileError Kind :=
  match Kind.ofName? text with
  | some kind => .ok kind
  | none => .error (.unsupportedKind text)

abbrev Parameters := List (String × Json)

namespace Parameters

def ofJson : Json → Except CompileError Parameters
  | .object fields => .ok fields
  | value => .error (.invalidParameter "parameters" (.wrongKind "an object" value.kind))

/-- A parameter that is null is not given. -/
def get? (params : Parameters) (key : String) : Option Json :=
  match params.lookup key with
  | some .null | none => none
  | some value => some value

def get (params : Parameters) (key : String) : Except CompileError Json :=
  match params.get? key with
  | some value => .ok value
  | none => .error (.missingParameter key)

def textOf (key : String) : Json → Except CompileError String
  | .text s => if Text.trim s = "" then .error (.invalidParameter key .empty) else .ok (Text.trim s)
  | value => .error (.invalidParameter key (.wrongKind "a string" value.kind))

def text (params : Parameters) (key : String) :
    Except CompileError String := do textOf key (← params.get key)

def text? (params : Parameters) (key : String) : Except CompileError (Option String) :=
  match params.get? key with
  | none => .ok none
  | some value => (textOf key value).map some

def literalOf (key : String) : Json → Except CompileError Literal
  | .number (.int n) =>
    .ok (if n ≤ Number.maxInt64 then .integer n else .real (Number.Double.ofInt n))
  | .number (.real x) => .ok (.real x)
  | .text s => .ok (.text s)
  | .bool b => .ok (.boolean b)
  | value => .error (.invalidParameter key (.wrongKind "a scalar" value.kind))

def literal (params : Parameters) (key : String) :
    Except CompileError Literal := do literalOf key (← params.get key)

def wholeOf (key : String) : Json → Except CompileError Int
  | .number (.int n) =>
    if n ≤ Number.maxInt64 then .ok n else .error (.invalidParameter key .notWholeDays)
  | .number (.real _) => .error (.invalidParameter key .notWholeDays)
  | .text s =>
    match Number.int64? (Text.trimChars s.toList) with
    | some n => .ok n
    | none => .error (.invalidParameter key (.notANumber s))
  | value => .error (.invalidParameter key (.wrongKind "a number" value.kind))

def days (params : Parameters) (key : String) : Except CompileError Nat := do
  match ← wholeOf key (← params.get key) with
  | .ofNat n => return n
  | .negSucc _ => throw (.invalidParameter key .negative)

def pattern (params : Parameters) (key : String) : Except CompileError String := do
  let regex ← params.text key
  match Pattern.check regex with
  | .ok () => return regex
  | .error fault => throw (.invalidParameter key (.pattern fault))

def operator (params : Parameters) (key : String) : Except CompileError Operator := do
  match ← params.text? key with
  | some text => Operator.read text
  | none => return .equal

def target (params : Parameters) : Except CompileError Target := do
  return ⟨← params.text "table", ← params.text? "primary_key"⟩

def condition (params : Parameters) : Kind → Except CompileError Condition
  | .threshold => do
    let operator ← params.operator "operator"
    return .threshold (← params.text "column") operator (← params.literal "value")
  | .dateDifference => do
    return .dateDifference (← params.text "date_col_1") (← params.text "date_col_2")
      (← params.days "max_days")
  | .notNull => do return .notNull (← params.text "column")
  | .pattern => do return .pattern (← params.text "column") (← params.pattern "regex_pattern")

end Parameters

namespace Spec

def read (kind : String) (parameters : Json) : Except CompileError Spec := do
  let kind ← Kind.read kind
  let params ← Parameters.ofJson parameters
  return ⟨← params.target, ← params.condition kind⟩

def kind (spec : Spec) : Kind := spec.condition.kind

def conditionFields : Condition → List (String × Json)
  | .threshold column operator value =>
    [("column", .text column), ("operator", .text operator.symbol), ("value", value.toJson)]
  | .dateDifference start finish maxDays =>
    [("date_col_1", .text start), ("date_col_2", .text finish), ("max_days", .int maxDays)]
  | .notNull column => [("column", .text column)]
  | .pattern column regex => [("column", .text column), ("regex_pattern", .text regex)]

def targetJson (target : Target) : Json :=
  .object [("table", .text target.table), ("primary_key", Json.ofText? target.primaryKey)]

def toJson (spec : Spec) : Json :=
  .object (("rule_type", .text spec.kind.name) :: ("target", targetJson spec.target) ::
    conditionFields spec.condition)

end Spec

end Compliance.Rule
