import Compliance.Time.Timestamp

/-!
Days and moments as the database keeps them.

A day is counted from the first of January 1970, a moment in microseconds since then, and either may
lie before or after all others. The year before the first is the first of the other era and is
marked `(BC)`. Reading takes a date with blanks before it and, for a moment, a time and an offset
after it; a day passes over what follows its date.
-/

namespace Compliance.Database

inductive Instant
  | past
  | finite (n : Int)
  | future
  deriving DecidableEq, Repr, Inhabited

namespace Instant

def order : Instant → Instant → Ordering
  | past, past | future, future => .eq
  | past, _ | _, future => .lt
  | _, past | future, _ => .gt
  | finite a, finite b => compare a b

def map (f : Int → Int) : Instant → Instant
  | finite n => finite (f n)
  | i => i

def microsPerDay : Int := 86400000000

def ofDay : Instant → Instant := map (· * microsPerDay)

def toDay : Instant → Instant := map (· / microsPerDay)

def dateText (d : Time.Date) : String :=
  let year := if 0 < d.year then d.year else 1 - d.year
  String.ofList (Time.padded 4 year.toNat ++ '-' :: Time.padded 2 d.month ++ '-' :: Time.padded 2 d.day)
    ++ if 0 < d.year then "" else " (BC)"

def timeText (micros : Nat) : String :=
  let seconds := micros / 1000000
  let clock := Time.padded 2 (seconds / 3600) ++ ':' :: Time.padded 2 (seconds % 3600 / 60)
    ++ ':' :: Time.padded 2 (seconds % 60)
  let fraction := ((Time.padded 6 (micros % 1000000)).reverse.dropWhile (· = '0')).reverse
  String.ofList (clock ++ if fraction = [] then [] else '.' :: fraction)

def dayText : Instant → String
  | past => "-infinity"
  | finite day => dateText (.ofDay day)
  | future => "infinity"

def momentText : Instant → String
  | past => "-infinity"
  | finite micros =>
    dateText (.ofDay (micros / microsPerDay)) ++ " " ++ timeText (micros % microsPerDay).toNat
  | future => "infinity"

def isBlank (c : Char) : Bool := c = ' ' || ('\t' ≤ c && c ≤ '\r')

def skipBlanks (s : List Char) : List Char := s.dropWhile isBlank

def readPair : List Char → Option (Nat × List Char)
  | a :: b :: s =>
    if !Number.isDigit a then none
    else if Number.isDigit b then some (Number.digitsValue [a, b], s)
    else some (Number.digitsValue [a], b :: s)
  | [a] => if Number.isDigit a then some (Number.digitsValue [a], []) else none
  | [] => none

def readEra : List Char → Bool × List Char
  | blank :: '(' :: b :: c :: ')' :: s =>
    if isBlank blank ∧ b.toLower = 'b' ∧ c.toLower = 'c' then (true, s)
    else (false, blank :: '(' :: b :: c :: ')' :: s)
  | s => (false, s)

def separators : List Char := ['-', '/', '\\', ' ']

def readDate (s : List Char) : Option (Time.Date × List Char) := do
  let (negative, s) := match s with
    | '-' :: s => (true, s)
    | s => (false, s)
  let (digits, s) := s.span Number.isDigit
  if digits = [] ∨ digits.length > 9 then none
  let written : Int := Number.digitsValue digits
  match s with
  | [] => none
  | separator :: s =>
    if !separators.contains separator then none
    let (month, s) ← readPair s
    if s.head? ≠ some separator then none
    let (day, s) ← readPair (s.drop 1)
    let (before, s) := readEra s
    if before ∧ (negative ∨ written = 0) then none
    let date : Time.Date :=
      ⟨if negative then -written else if before then 1 - written else written, month, day⟩
    if date.isValid ∧ (date.toDay.natAbs : Int) < Nat.pow 2 31 - 1 then some (date, s) else none

def readWord (s : List Char) : Option Instant :=
  let word := String.ofList ((s.reverse.dropWhile isBlank).reverse.map Char.toLower)
  if word = "infinity" then some future
  else if word = "-infinity" then some past
  else if word = "epoch" then some (finite 0)
  else none

def ofDayText (text : String) : Option Instant :=
  let s := skipBlanks text.toList
  match readWord s with
  | some word => some word
  | none =>
    match readDate s with
    | some (date, rest) => if rest.head?.any Number.isDigit then none else some (finite date.toDay)
    | none => none

def readFraction : List Char → Nat × List Char
  | '.' :: s =>
    let (digits, rest) := s.span Number.isDigit
    let taken := digits.take 6
    (Number.digitsValue taken * Nat.pow 10 (6 - taken.length), rest)
  | s => (0, s)

def readTime (s : List Char) : Option (Int × List Char) := do
  let s := skipBlanks s
  let (digits, s) := s.span Number.isDigit
  if digits = [] ∨ digits.length > 9 ∨ s.head? ≠ some ':' then none
  let hour := Number.digitsValue digits
  let (minute, s) ← readPair (s.drop 1)
  let (second, s) ← match s with
    | [] => some (0, [])
    | ':' :: s => readPair s
    | _ => none
  let (fraction, s) := readFraction s
  let micros : Int := (hour * 3600 + minute * 60 + second) * 1000000 + fraction
  if minute < 60 ∧ second < 60 ∧ micros ≤ microsPerDay then some (micros, s) else none

def readOffset : List Char → Option (Int × List Char)
  | 'Z' :: s => some (0, s)
  | ' ' :: 'U' :: 'T' :: 'C' :: s => some (0, s)
  | sign :: a :: b :: s =>
    if (sign = '+' ∨ sign = '-') ∧ Number.isDigit a ∧ Number.isDigit b then
      let (minutes, s) := match s with
        | ':' :: c :: d :: s =>
          if Number.isDigit c ∧ Number.isDigit d then (Number.digitsValue [c, d], s)
          else (0, ':' :: c :: d :: s)
        | c :: d :: s =>
          if Number.isDigit c ∧ Number.isDigit d then (Number.digitsValue [c, d], s)
          else (0, c :: d :: s)
        | s => (0, s)
      let micros : Int := (Number.digitsValue [a, b] * 60 + minutes) * 60000000
      some (if sign = '+' then micros else -micros, s)
    else none
  | _ => none

/-- The moment, if it can be kept: the ends of the range stand for the ends of time. -/
def ofMicros? (micros : Int) : Option Instant :=
  if (micros.natAbs : Int) < Nat.pow 2 63 - 1 then some (finite micros) else none

def ofMomentText (text : String) : Option Instant :=
  let s := skipBlanks text.toList
  match readWord s with
  | some word => some word
  | none => do
    let (date, s) ← readDate s
    let start := date.toDay * microsPerDay
    match s with
    | [] => ofMicros? start
    | separator :: rest =>
      let (time, s) ← readTime (if separator = ' ' ∨ separator = 'T' then rest else s)
      match s with
      | [] => ofMicros? (start + time)
      | s =>
        let (offset, s) ← if skipBlanks s = [] then some (0, []) else readOffset s
        if skipBlanks s = [] then ofMicros? (start + time - offset) else none

/-- A timestamp as it is kept, cut to microseconds. A leap second and a year of five digits cannot
be kept. -/
def ofTimestamp? (t : Time.Timestamp) : Option Instant :=
  if t.nanos < 1000000000 ∧ t.toFields.year ≤ 9999
    then ofMicros? (t.seconds * 1000000 + t.nanos / 1000) else none

def toTimestamp? : Instant → Option Time.Timestamp
  | finite micros =>
    let year := (Time.Date.ofDay (micros / microsPerDay)).year
    if 1 ≤ year ∧ year ≤ 9999 then some ⟨micros / 1000000, (micros % 1000000).toNat * 1000⟩ else none
  | _ => none

end Instant

end Compliance.Database
