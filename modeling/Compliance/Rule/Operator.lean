/-!
Comparison operators.

A rule states what complies (`age >= 18`), a query looks for what does not, so that an operator has
an inverse. Where two operands compare at all, an operator and its inverse exclude each other
(`holdsOf_invert_of_comparable`); operands that do not compare, such as a NaN, make `!=` hold and
nothing else (`holdsOf_incomparable`).
-/

namespace Compliance.Rule

inductive Operator
  | greater | greaterOrEqual | less | lessOrEqual | equal | notEqual
  deriving DecidableEq, Repr, Inhabited

namespace Operator

def all : List Operator := [greater, greaterOrEqual, less, lessOrEqual, equal, notEqual]

def symbol : Operator → String
  | greater => ">"
  | greaterOrEqual => ">="
  | less => "<"
  | lessOrEqual => "<="
  | equal => "="
  | notEqual => "!="

def invert : Operator → Operator
  | greater => lessOrEqual
  | lessOrEqual => greater
  | less => greaterOrEqual
  | greaterOrEqual => less
  | equal => notEqual
  | notEqual => equal

def ofSymbol? : String → Option Operator
  | ">" => some greater
  | ">=" => some greaterOrEqual
  | "<" => some less
  | "<=" => some lessOrEqual
  | "=" | "==" => some equal
  | "!=" | "<>" => some notEqual
  | _ => none

/-- Whether the operator holds of operands that compare so; `none` stands for operands that do not
compare. -/
def holdsOf : Operator → Option Ordering → Bool
  | greater, order => order = some .gt
  | greaterOrEqual, order => order = some .gt || order = some .eq
  | less, order => order = some .lt
  | lessOrEqual, order => order = some .lt || order = some .eq
  | equal, order => order = some .eq
  | notEqual, order => order ≠ some .eq

def holds {α : Type} (compare? : α → α → Option Ordering) (op : Operator) (left right : α) : Bool :=
  op.holdsOf (compare? left right)

@[simp] theorem invert_invert (op : Operator) : op.invert.invert = op := by cases op <;> rfl

theorem ofSymbol?_symbol (op : Operator) : ofSymbol? op.symbol = some op := by cases op <;> rfl

theorem holdsOf_invert_of_comparable (op : Operator) (order : Ordering) :
    op.invert.holdsOf (some order) = !op.holdsOf (some order) := by
  cases op <;> cases order <;> rfl

theorem holdsOf_incomparable (op : Operator) : op.holdsOf none = decide (op = notEqual) := by
  cases op <;> rfl

end Operator

end Compliance.Rule
