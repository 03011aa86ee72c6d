import Compliance.Database.Instant
import Compliance.Number.Notation
import Compliance.Rule.Literal

/-!
The values of the database, and their types.

Every value has a text, which is null for null, and text converts to a value of any type or to none.
Two values of one type are compared by `Value.order`; numbers compare by their value, text by its
characters, and a NaN is the greatest number.
-/

namespace Compliance.Database

inductive ColumnType
  | integer | bigint | double | boolean | text | date | timestamp
  deriving DecidableEq, Repr, Inhabited

namespace ColumnType

def names : List (String × ColumnType) := [
  ("INTEGER", integer), ("INT", integer), ("INT4", integer), ("SIGNED", integer),
  ("BIGINT", bigint), ("INT8", bigint), ("LONG", bigint), ("DOUBLE", double), ("FLOAT8", double),
  ("BOOLEAN", boolean), ("BOOL", boolean), ("LOGICAL", boolean),
  ("VARCHAR", text), ("TEXT", text), ("STRING", text), ("CHAR", text), ("BPCHAR", text),
  ("DATE", date), ("TIMESTAMP", timestamp), ("DATETIME", timestamp)]

def ofName? (name : String) : Option ColumnType :=
  names.lookup (String.ofList (name.toList.map Char.toUpper))

def isNumber : ColumnType → Bool
  | integer | bigint | double => true
  | _ => false

def rank : ColumnType → Nat
  | boolean => 0
  | integer => 1
  | bigint => 2
  | _ => 3

/-- The type in which values of two types are compared: text takes the other type, a day becomes a
moment, and a truth value counts as a number beside a number. -/
def common? (a b : ColumnType) : Option ColumnType :=
  if a = b then some a
  else if a = text then some b
  else if b = text then some a
  else match a, b with
    | date, timestamp | timestamp, date => some timestamp
    | date, _ | _, date | timestamp, _ | _, timestamp => none
    | _, _ => some (if a.rank ≤ b.rank then b else a)

end ColumnType

inductive Value
  | null
  | integer (n : Int)
  | real (x : Number.Double)
  | boolean (b : Bool)
  | text (s : String)
  | date (day : Instant)
  | timestamp (moment : Instant)
  deriving DecidableEq, Repr, Inhabited

namespace Value

def text? : Value → Option String
  | null => none
  | integer n => some (toString n)
  | real x => some (Number.Notation.database.write x)
  | boolean b => some (if b then "true" else "false")
  | text s => some s
  | date day => some day.dayText
  | timestamp moment => some moment.momentText

def unpadded (s : String) : List Char :=
  ((Instant.skipBlanks s.toList).reverse.dropWhile Instant.isBlank).reverse

/-- The nearest whole number to a decimal, a half rounded away from zero. -/
def roundDecimal (negative : Bool) (parts : Number.DecimalParts) : Int :=
  let digits := Number.digitsValue (parts.whole ++ parts.fraction)
  let scale := parts.exponent - parts.fraction.length
  let n : Nat :=
    if 0 ≤ scale then digits * Nat.pow 10 (min scale 100).toNat
    else
      let unit := Nat.pow 10 (min (-scale) 1000).toNat
      (2 * digits + unit) / (2 * unit)
  if negative then -(n : Int) else n

def wholeOfText? (bits : Nat) (s : String) : Option Int :=
  let (negative, body) := match unpadded s with
    | '-' :: body => (true, body)
    | '+' :: body => (false, body)
    | body => (false, body)
  match Number.decimalParts? body with
  | some parts =>
    let n := roundDecimal negative parts
    if -(Nat.pow 2 (bits - 1)) ≤ n ∧ n < Nat.pow 2 (bits - 1) then some n else none
  | none => none

def doubleOfText? (s : String) : Option Number.Double :=
  match Number.double? (unpadded s) with
  | some (.infinite negative) => if s.toList.any Number.isDigit then none else some (.infinite negative)
  | x => x

def booleanOfText? (s : String) : Option Bool :=
  let word := String.ofList (s.toList.map Char.toLower)
  if ["true", "t", "1", "yes", "y"].contains word then some true
  else if ["false", "f", "0", "no", "n"].contains word then some false
  else none

def ofText? (type : ColumnType) (s : String) : Option Value :=
  match type with
  | .integer => (wholeOfText? 32 s).map integer
  | .bigint => (wholeOfText? 64 s).map integer
  | .double => (doubleOfText? s).map real
  | .boolean => (booleanOfText? s).map boolean
  | .text => some (text s)
  | .date => (Instant.ofDayText s).map date
  | .timestamp => (Instant.ofMomentText s).map timestamp

def ofTruth (b : Bool) : Int := if b then 1 else 0

def convert? (type : ColumnType) : Value → Option Value
  | null => some null
  | text s => ofText? type s
  | integer n => some (if type = .double then real (.ofInt n) else integer n)
  | boolean b =>
    match type with
    | .boolean => some (boolean b)
    | .double => some (real (.ofInt (ofTruth b)))
    | _ => some (integer (ofTruth b))
  | real x => some (real x)
  | date day => some (if type = .timestamp then timestamp day.ofDay else date day)
  | timestamp moment => some (timestamp moment)

def ofLiteral : Rule.Literal → Value × ColumnType
  | .integer n => (integer n, .bigint)
  | .real x => (real x, .double)
  | .text s => (text s, .text)
  | .boolean b => (boolean b, .boolean)

/-- Doubles in order, a NaN after all others and equal to itself. -/
def doubleOrder (x y : Number.Double) : Ordering :=
  (x.compare? y).getD (compare x.isNaN.toNat y.isNaN.toNat)

def order : Value → Value → Option Ordering
  | integer a, integer b => some (compare a b)
  | real x, real y => some (doubleOrder x y)
  | boolean a, boolean b => some (compare a.toNat b.toNat)
  | text a, text b => some (compare a b)
  | date a, date b => some (a.order b)
  | timestamp a, timestamp b => some (a.order b)
  | _, _ => none

end Value

end Compliance.Database
