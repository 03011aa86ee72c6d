/-!
Double precision numbers as exact dyadic values.

A finite double is a sign, a mantissa below 2^53 and an exponent of two; `ofRatio` rounds a fraction
to the nearest one, a tie to the even mantissa, and gives infinity beyond the largest. Two doubles
compare by their exact values; a NaN compares with nothing (`compare?_eq_none_iff`).
-/

namespace Compliance.Number

inductive Double
  | nan
  | infinite (negative : Bool)
  | finite (negative : Bool) (mantissa : Nat) (exponent : Int)
  deriving DecidableEq, Repr, Inhabited

namespace Double

def minExponent : Int := -1074

def maxExponent : Int := 971

def mantissaBound : Nat := Nat.pow 2 53

def zero : Double := finite false 0 minExponent

def isNaN : Double → Bool
  | nan => true
  | _ => false

def isFinite : Double → Bool
  | finite .. => true
  | _ => false

def divRound (num den : Nat) : Nat :=
  let q := num / den
  let r := num % den
  if 2 * r > den ∨ (2 * r = den ∧ q % 2 = 1) then q + 1 else q

def shiftRatio (num den : Nat) (e : Int) : Nat × Nat :=
  if 0 ≤ e then (num, den * Nat.pow 2 e.toNat) else (num * Nat.pow 2 (-e).toNat, den)

/-- The exponent that gives the fraction a mantissa of 53 bits, or the least exponent there is. -/
def ratioExponent (num den : Nat) : Int :=
  let guess : Int := (num.log2 : Int) - den.log2 - 52
  let ratio := shiftRatio num den guess
  max minExponent (if ratio.1 / ratio.2 < Nat.pow 2 52 then guess - 1 else guess)

def ofRatio (negative : Bool) (num den : Nat) : Double :=
  if num = 0 then finite negative 0 minExponent
  else
    let e := ratioExponent num den
    let ratio := shiftRatio num den e
    let m := divRound ratio.1 ratio.2
    let (m, e) := if m = mantissaBound then (Nat.pow 2 52, e + 1) else (m, e)
    if e > maxExponent then infinite negative else finite negative m e

/-- The double nearest to `digits * 10^exponent`. Fractions far beyond the range are cut off before
the powers grow. -/
def ofDecimal (negative : Bool) (digits : Nat) (exponent : Int) : Double :=
  let magnitude : Int := exponent + (digits.log2 : Int) / 3
  if digits = 0 then finite negative 0 minExponent
  else if magnitude > 400 then infinite negative
  else if exponent + (digits.log2 : Int) < -400 then finite negative 0 minExponent
  else if 0 ≤ exponent then ofRatio negative (digits * Nat.pow 10 exponent.toNat) 1
  else ofRatio negative digits (Nat.pow 10 (-exponent).toNat)

def ofInt (n : Int) : Double := ofRatio (n < 0) n.natAbs 1

/-- The signed mantissa scaled to the exponent `e`, which is at most the double's own. -/
def scaled (negative : Bool) (mantissa : Nat) (exponent e : Int) : Int :=
  let m : Int := mantissa * Nat.pow 2 (exponent - e).toNat
  if negative then -m else m

def compare? : Double → Double → Option Ordering
  | nan, _ | _, nan => none
  | infinite a, infinite b => some (compare b.toNat a.toNat)
  | infinite a, finite .. => some (if a then .lt else .gt)
  | finite .., infinite b => some (if b then .gt else .lt)
  | finite a m e, finite b n f => some (compare (scaled a m e (min e f)) (scaled b n f (min e f)))

theorem compare?_eq_none_iff (x y : Double) : compare? x y = none ↔ x = nan ∨ y = nan := by
  cases x <;> cases y <;> simp [compare?]

def magnitude? : Double → Option (Nat × Nat)
  | finite _ m e => some (if 0 ≤ e then (m * Nat.pow 2 e.toNat, 1) else (m, Nat.pow 2 (-e).toNat))
  | _ => none

def isNegative : Double → Bool
  | finite negative .. | infinite negative => negative
  | nan => false

end Double

end Compliance.Number
