import Compliance.Number.Double

/-!
Reading numbers from text: whole numbers of 64 bits, and decimals.
-/

namespace Compliance.Number

def minInt64 : Int := -(Nat.pow 2 63)

def maxInt64 : Int := Nat.pow 2 63 - 1

def maxNat64 : Nat := Nat.pow 2 64 - 1

def isDigit (c : Char) : Bool := '0' ≤ c && c ≤ '9'

def digitsValue (digits : List Char) : Nat := digits.foldl (fun n c => 10 * n + (c.toNat - '0'.toNat)) 0

def natOfDigits? (digits : List Char) : Option Nat :=
  if digits ≠ [] ∧ digits.all isDigit then some (digitsValue digits) else none

def int64? (text : List Char) : Option Int :=
  let value : Option Int :=
    match text with
    | '-' :: digits => (natOfDigits? digits).map fun n => -(n : Int)
    | '+' :: digits => (natOfDigits? digits).map Int.ofNat
    | digits => (natOfDigits? digits).map Int.ofNat
  value.filter fun n => minInt64 ≤ n ∧ n ≤ maxInt64

def nat64? (text : List Char) : Option Nat :=
  let value := match text with
    | '+' :: digits => natOfDigits? digits
    | digits => natOfDigits? digits
  value.filter fun n => n ≤ maxNat64

structure DecimalParts where
  whole : List Char
  fraction : List Char
  exponent : Int

def DecimalParts.value (p : DecimalParts) (negative : Bool) : Double :=
  Double.ofDecimal negative (digitsValue (p.whole ++ p.fraction)) (p.exponent - p.fraction.length)

def exponent? (text : List Char) : Option Int :=
  match text with
  | '-' :: digits => (natOfDigits? digits).map fun n => -(n : Int)
  | '+' :: digits => (natOfDigits? digits).map Int.ofNat
  | digits => (natOfDigits? digits).map Int.ofNat

def decimalParts? (text : List Char) : Option DecimalParts :=
  let (whole, rest) := text.span isDigit
  let (fraction, rest) := match rest with
    | '.' :: more => more.span isDigit
    | _ => ([], rest)
  if whole = [] ∧ fraction = [] then none
  else match rest with
    | [] => some ⟨whole, fraction, 0⟩
    | c :: digits => if c = 'e' ∨ c = 'E' then (exponent? digits).map (⟨whole, fraction, ·⟩) else none

def double? (text : List Char) : Option Double :=
  let unsigned (negative : Bool) (body : List Char) : Option Double :=
    let word := String.ofList (body.map Char.toLower)
    if word = "nan" then some .nan
    else if word = "inf" ∨ word = "infinity" then some (.infinite negative)
    else (decimalParts? body).map (·.value negative)
  match text with
  | '-' :: body => unsigned true body
  | '+' :: body => unsigned false body
  | body => unsigned false body

end Compliance.Number
