import Compliance.Time.Date

/-!
Spans of time, written in the largest unit that leaves a whole part, with as many places as they need.
-/

namespace Compliance.Time

structure Duration where
  nanos : Nat
  deriving DecidableEq, Repr, Inhabited

namespace Duration

def ofMillis (n : Nat) : Duration := ⟨n * 1000000⟩

def ofMicros (n : Nat) : Duration := ⟨n * 1000⟩

private def dropZeros (digits : List Char) : List Char := (digits.reverse.dropWhile (· = '0')).reverse

def inUnit (places nanos : Nat) : String :=
  let fraction := dropZeros (padded places (nanos % Nat.pow 10 places))
  String.ofList (Nat.toDigits 10 (nanos / Nat.pow 10 places) ++
    (if fraction = [] then [] else '.' :: fraction))

def write (d : Duration) : String :=
  if d.nanos ≥ Nat.pow 10 9 then inUnit 9 d.nanos ++ "s"
  else if d.nanos ≥ Nat.pow 10 6 then inUnit 6 d.nanos ++ "ms"
  else if d.nanos ≥ Nat.pow 10 3 then inUnit 3 d.nanos ++ "µs"
  else toString d.nanos ++ "ns"

end Duration

end Compliance.Time
