import Compliance.Number.Double

/-!
The shortest decimal that reads back as a given double.

Around a double lies the interval of the reals that round to it; its ends belong to it if the
mantissa is even. For 1, 2, … 17 digits the two neighbours of the value on the grid of decimals with
that many digits are tried, and the first grid with a neighbour inside the interval wins; of two
inside, the nearer one, a tie going to the even digit.
-/

namespace Compliance.Number

structure Decimal where
  digits : Nat
  exponent : Int
  deriving DecidableEq, Repr

namespace Decimal

def shiftTen (num den : Nat) (k : Int) : Nat × Nat :=
  if 0 ≤ k then (num * Nat.pow 10 k.toNat, den) else (num, den * Nat.pow 10 (-k).toNat)

def reachesTen (num den : Nat) (k : Int) : Bool :=
  let ratio := shiftTen num den (-k)
  ratio.2 ≤ ratio.1

def leadingExponent (num den : Nat) : Int :=
  let guess : Int := (((num.log2 : Int) - den.log2) * 30103).fdiv 100000
  if reachesTen num den (guess + 2) then guess + 2
  else if reachesTen num den (guess + 1) then guess + 1
  else if reachesTen num den guess then guess
  else guess - 1

structure Interval where
  low : Nat
  value : Nat
  high : Nat
  den : Nat
  closed : Bool

def intervalOf (mantissa : Nat) (exponent : Int) : Interval :=
  let below := if mantissa = Nat.pow 2 52 ∧ exponent > Double.minExponent then 1 else 2
  let e := exponent - 2
  let scale (n : Nat) : Nat := if 0 ≤ e then n * Nat.pow 2 e.toNat else n
  ⟨scale (4 * mantissa - below), scale (4 * mantissa), scale (4 * mantissa + 2),
    if 0 ≤ e then 1 else Nat.pow 2 (-e).toNat, mantissa % 2 = 0⟩

def Interval.holds (i : Interval) (n : Nat) (exponent : Int) : Bool :=
  let point := shiftTen n 1 exponent
  let low := i.low * point.2
  let high := i.high * point.2
  let x := point.1 * i.den
  if i.closed then low ≤ x && x ≤ high else low < x && x < high

def Interval.nearest? (i : Interval) (exponent : Int) : Option Nat :=
  let ratio := shiftTen i.value i.den (-exponent)
  let a := ratio.1 / ratio.2
  let r := ratio.1 % ratio.2
  let up := 2 * r > ratio.2 || (2 * r = ratio.2 && a % 2 = 1)
  match i.holds a exponent, i.holds (a + 1) exponent with
  | true, true => some (if up then a + 1 else a)
  | true, false => some a
  | false, true => some (a + 1)
  | false, false => none

def Interval.search (i : Interval) (leading : Int) (digits : Nat) : Nat → Decimal
  | 0 => ⟨i.value / i.den, 0⟩
  | tries + 1 =>
    let exponent := leading + 1 - digits
    match i.nearest? exponent with
    | some n => ⟨n, exponent⟩
    | none => i.search leading (digits + 1) tries

/-- Takes the zeros off the end of the digits; `digits` is at most 10^`fuel`. -/
def strip : Nat → Decimal → Decimal
  | 0, d => d
  | fuel + 1, d =>
    if d.digits ≠ 0 ∧ d.digits % 10 = 0 then strip fuel ⟨d.digits / 10, d.exponent + 1⟩ else d

def shortest (mantissa : Nat) (exponent : Int) : Decimal :=
  if mantissa = 0 then ⟨0, 0⟩
  else
    let i := intervalOf mantissa exponent
    strip 20 (i.search (leadingExponent i.value i.den) 1 17)

end Decimal

end Compliance.Number
