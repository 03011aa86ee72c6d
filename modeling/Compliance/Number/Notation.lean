import Compliance.Number.Shortest

/-!
How numbers are written: plain decimals in messages, the report format, the database's own text, and
a fixed number of places in tables.
-/

namespace Compliance.Number

def positional (digits : List Char) (exponent : Int) (pointZero : Bool) : List Char :=
  if 0 ≤ exponent then digits ++ List.replicate exponent.toNat '0' ++
    (if pointZero then ['.', '0'] else [])
  else
    let scale := (-exponent).toNat
    let padded := List.replicate (scale + 1 - digits.length) '0' ++ digits
    padded.take (padded.length - scale) ++ '.' :: padded.drop (padded.length - scale)

structure Notation where
  isPositional : Int → Bool
  pointZero : Bool
  exponentDigits : Nat
  nan : String
  infinity : String

namespace Notation

def message : Notation := ⟨fun _ => true, false, 1, "NaN", "inf"⟩

def report : Notation := ⟨fun e => -5 ≤ e && e ≤ 15, true, 1, "null", "null"⟩

def database : Notation := ⟨fun e => -4 ≤ e && e < 16, true, 2, "nan", "inf"⟩

def exponentText (n : Notation) (e : Int) : List Char :=
  let digits := Nat.toDigits 10 e.natAbs
  ['e', if e < 0 then '-' else '+'] ++ List.replicate (n.exponentDigits - digits.length) '0' ++ digits

def magnitude (n : Notation) (d : Decimal) : List Char :=
  let digits := Nat.toDigits 10 d.digits
  let leading := d.exponent + digits.length - 1
  if d.digits = 0 ∨ n.isPositional leading then positional digits d.exponent n.pointZero
  else
    match digits with
    | first :: [] => first :: n.exponentText leading
    | first :: rest => first :: '.' :: rest ++ n.exponentText leading
    | [] => []

def write (n : Notation) : Double → String
  | .nan => n.nan
  | .infinite false => n.infinity
  | .infinite true => if n.infinity = "null" then "null" else "-" ++ n.infinity
  | .finite negative m e =>
    String.ofList ((if negative then ['-'] else []) ++ n.magnitude (Decimal.shortest m e))

end Notation

def fixedPlaces (places : Nat) (x : Double) : String :=
  match x.magnitude? with
  | none => Notation.message.write x
  | some (num, den) =>
    let n := Double.divRound (num * Nat.pow 10 places) den
    let digits := Nat.toDigits 10 n
    let body := if places = 0 then digits else positional digits (-(places : Int)) false
    String.ofList ((if x.isNegative then ['-'] else []) ++ body)

end Compliance.Number
