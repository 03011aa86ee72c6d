import Compliance.Time.Date
import Compliance.Text.Blank

/-!
Moments in universal time, to the nanosecond.

A moment is a count of seconds since 1970 and the nanoseconds after it; a leap second is the last
second of its minute with a thousand million nanoseconds more. Reading accepts the usual date, a `T`
or a blank, the time and an offset; writing gives the time with `Z` and as many groups of three
digits after the point as are needed.
-/

namespace Compliance.Time

structure Timestamp where
  seconds : Int
  nanos : Nat
  deriving DecidableEq, Repr, Inhabited

inductive ReadError
  | invalid
  | tooShort
  | outOfRange
  | tooLong
  | impossible
  deriving DecidableEq, Repr, Inhabited

def ReadError.message : ReadError → String
  | .invalid => "input contains invalid characters"
  | .tooShort => "premature end of input"
  | .outOfRange => "input is out of range"
  | .tooLong => "trailing input"
  | .impossible => "no possible date and time matching input"

namespace Timestamp

def minYear : Int := -262143

def maxYear : Int := 262142

def epoch : Timestamp := ⟨0, 0⟩

structure Fields where
  year : Int
  month : Nat
  day : Nat
  hour : Nat
  minute : Nat
  second : Nat
  nanos : Nat
  deriving DecidableEq, Repr

def skipBlanks (s : List Char) : List Char := s.dropWhile Text.isBlank

def digits (width : Nat) (s : List Char) : Except ReadError (Nat × List Char) :=
  match s with
  | [] => .error .tooShort
  | c :: _ =>
    if Number.isDigit c then
      let taken := (s.take width).takeWhile Number.isDigit
      let value := Number.digitsValue taken
      if (value : Int) ≤ Number.maxInt64 then .ok (value, s.drop taken.length) else .error .outOfRange
    else .error .invalid

def literal (c : Char) (s : List Char) : Except ReadError (List Char) :=
  match s with
  | [] => .error .tooShort
  | d :: rest => if d = c then .ok rest else .error .invalid

def readYear (s : List Char) : Except ReadError (Int × List Char) := do
  match skipBlanks s with
  | '-' :: rest => let (n, rest) ← digits rest.length rest; return (-(n : Int), rest)
  | '+' :: rest => let (n, rest) ← digits rest.length rest; return ((n : Int), rest)
  | s => let (n, rest) ← digits 4 s; return ((n : Int), rest)

def bounded (low high n : Nat) : Except ReadError Nat :=
  if low ≤ n ∧ n ≤ high then .ok n else .error .outOfRange

def field (low high : Nat) (s : List Char) : Except ReadError (Nat × List Char) := do
  let (n, rest) ← digits 2 (skipBlanks s)
  return (← bounded low high n, rest)

def readDate (s : List Char) : Except ReadError ((Int × Nat × Nat) × List Char) := do
  let (year, s) ← readYear s
  if year < -(Nat.pow 2 31) ∨ year ≥ Nat.pow 2 31 then throw .outOfRange
  let (month, s) ← field 1 12 (← literal '-' (skipBlanks s))
  let (day, s) ← field 1 31 (← literal '-' (skipBlanks s))
  return ((year, month, day), s)

def readFraction (s : List Char) : Except ReadError (Nat × List Char) := do
  match s with
  | '.' :: rest =>
    let (value, after) ← digits 9 rest
    let taken := rest.length - after.length
    return (value * Nat.pow 10 (9 - taken), after.dropWhile Number.isDigit)
  | _ => return (0, s)

def readTime (s : List Char) : Except ReadError ((Nat × Nat × Nat × Nat) × List Char) := do
  let (hour, s) ← field 0 23 s
  let (minute, s) ← field 0 59 (← literal ':' (skipBlanks s))
  let (second, s) ← field 0 60 (← literal ':' (skipBlanks s))
  let (nanos, s) ← readFraction s
  return ((hour, minute, second, nanos), s)

private def twoDigits (s : List Char) : Except ReadError (Char × Char × List Char) :=
  match s with
  | a :: b :: rest => .ok (a, b, rest)
  | _ => .error .tooShort

def readOffset (s : List Char) : Except ReadError (Int × List Char) := do
  match s with
  | 'Z' :: rest | 'z' :: rest => return (0, rest)
  | [] => throw .tooShort
  | sign :: rest =>
    if sign ≠ '+' ∧ sign ≠ '-' ∧ sign ≠ '−' then throw .invalid
    let (a, b, rest) ← twoDigits rest
    if !(Number.isDigit a && Number.isDigit b) then throw .invalid
    let rest := rest.dropWhile fun c => c = ':' || Text.isBlank c
    let (c, d, rest) ← twoDigits rest
    if !(Number.isDigit c && Number.isDigit d) then throw .invalid
    if c > '5' then throw .outOfRange
    let seconds : Int := 3600 * Number.digitsValue [a, b] + 60 * Number.digitsValue [c, d]
    return (if sign = '+' then seconds else -seconds, rest)

def ofFields (f : Fields) (offset : Int) : Except ReadError Timestamp :=
  let date : Date := ⟨f.year, f.month, f.day⟩
  if !date.isValid ∨ f.year < minYear ∨ f.year > maxYear ∨ offset ≤ -86400 ∨
    offset ≥ 86400 then .error .outOfRange
  else
    let leap := f.second = 60
    let second : Int := if leap then 59 else f.second
    .ok ⟨date.toDay * 86400 + f.hour * 3600 + f.minute * 60 + second - offset,
      if leap then f.nanos + 1000000000 else f.nanos⟩

def read (text : String) : Except ReadError Timestamp := do
  let ((year, month, day), s) ← readDate text.toList
  let s ← match s with
    | [] => throw .tooShort
    | c :: rest => if c = 'T' ∨ c = 't' ∨ c = ' ' then pure rest else throw .invalid
  let ((hour, minute, second, nanos), s) ← readTime s
  let s := skipBlanks s
  let (offset, s) ← match s with
    | a :: b :: c :: rest =>
      if [a, b, c].map Char.toUpper = ['U', 'T', 'C'] then pure (0, rest) else readOffset s
    | _ => readOffset s
  if skipBlanks s ≠ [] then throw .tooLong
  ofFields ⟨year, month, day, hour, minute, second, nanos⟩ offset

def toFields (t : Timestamp) : Fields :=
  let day := t.seconds / 86400
  let rest := (t.seconds - day * 86400).toNat
  let date := Date.ofDay day
  ⟨date.year, date.month, date.day, rest / 3600, rest % 3600 / 60, rest % 60 + t.nanos / 1000000000,
    t.nanos % 1000000000⟩

def yearChars (year : Int) : List Char :=
  if 0 ≤ year ∧ year ≤ 9999 then padded 4 year.toNat
  else (if year < 0 then '-' else '+') :: padded 4 year.natAbs

def dateChars (f : Fields) : List Char :=
  yearChars f.year ++ '-' :: padded 2 f.month ++ '-' :: padded 2 f.day

def clockChars (f : Fields) : List Char :=
  padded 2 f.hour ++ ':' :: padded 2 f.minute ++ ':' :: padded 2 f.second

def fractionChars (nanos : Nat) : List Char :=
  if nanos = 0 then []
  else if nanos % 1000000 = 0 then '.' :: padded 3 (nanos / 1000000)
  else if nanos % 1000 = 0 then '.' :: padded 6 (nanos / 1000)
  else '.' :: padded 9 nanos

def write (t : Timestamp) : String :=
  let f := t.toFields
  String.ofList (dateChars f ++ 'T' :: clockChars f ++ fractionChars f.nanos ++ ['Z'])

def millisUntil (start later : Timestamp) : Nat :=
  (((later.seconds - start.seconds) * 1000000000 + later.nanos - start.nanos) / 1000000).toNat

def minuteText (t : Timestamp) : String :=
  let f := t.toFields
  String.ofList (dateChars f ++ ' ' :: clockChars f)

end Timestamp

end Compliance.Time
