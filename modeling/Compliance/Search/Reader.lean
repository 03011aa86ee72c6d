import Compliance.Number.Reading
import Compliance.Search.Expression

/-!
Reading search expressions.

A text that is no expression has no reading: what the search does not know is refused, not passed
over. Readers give back what they leave; fuel bounds how deep they call each other, and four calls
for every character are enough.
-/

namespace Compliance.Search.Reader

structure Flags where
  foldsCase : Bool
  multiline : Bool
  dotAll : Bool
  deriving DecidableEq, Repr, Inhabited

def Flags.start : Flags := ⟨false, false, false⟩

def readCount (s : List Char) : Option (Nat × List Char) :=
  let (digits, rest) := s.span Number.isDigit
  if digits = [] ∨ (digits.head? = some '0' ∧ digits.length > 1) ∨ digits.length > 8 then none
  else some (Number.digitsValue digits, rest)

def readBounds (s : List Char) : Option ((Nat × Option Nat) × List Char) := do
  let (least, s) ← readCount s
  match s with
  | '\x7d' :: s => return ((least, some least), s)
  | ',' :: '\x7d' :: s => return ((least, none), s)
  | ',' :: s =>
    match ← readCount s with
    | (most, '\x7d' :: s) => return ((least, some most), s)
    | _ => none
  | _ => none

def repetition? : List Char → Option ((Nat × Option Nat) × List Char)
  | '*' :: s => some ((0, none), s)
  | '+' :: s => some ((1, none), s)
  | '?' :: s => some ((0, some 1), s)
  | '\x7b' :: s => readBounds s
  | _ => none

/-- The expression with the repetition that follows it, if one does. Two in a row are refused, and
so are too many. -/
def repeated (e : Expression) (s : List Char) : Option (Expression × List Char) :=
  match repetition? s with
  | none => some (e, s)
  | some ((least, most), s) =>
    let s := match s with
      | '?' :: rest => rest
      | s => s
    let e := e.times least most
    let highest := most.getD least
    if highest < least ∨ Expression.maxTimes < highest ∨ (repetition? s).isSome ∨
      !e.fits then none else some (e, s)

def hexValue? (c : Char) : Option Nat :=
  if '0' ≤ c ∧ c ≤ '9' then some (c.toNat - '0'.toNat)
  else if 'a' ≤ c ∧ c ≤ 'f' then some (c.toNat - 'a'.toNat + 10)
  else if 'A' ≤ c ∧ c ≤ 'F' then some (c.toNat - 'A'.toNat + 10)
  else none

def hexNumber? (digits : List Char) : Option Nat :=
  if digits = [] then none
  else digits.foldlM (fun n c => do return 16 * n + (← hexValue? c)) 0

def charOf? (n : Nat) : Option Char := if n.isValidChar then some (Char.ofNat n) else none

def readHex : List Char → Option (Char × List Char)
  | '\x7b' :: s =>
    match s.span (· ≠ '\x7d') with
    | (digits, _ :: rest) => do return (← charOf? (← hexNumber? digits), rest)
    | _ => none
  | a :: b :: s => do return (← charOf? (← hexNumber? [a, b]), s)
  | _ => none

def controls : List (Char × Char) :=
  [('n', '\n'), ('r', '\r'), ('t', '\t'), ('a', '\x07'), ('f', '\x0c'), ('v', '\x0b')]

def readEscape : List Char → Option (Char × List Char)
  | 'x' :: s => readHex s
  | c :: s =>
    match controls.lookup c with
    | some control => some (control, s)
    | none => if c.toNat < 0x80 ∧ !isWord c then some (c, s) else none
  | [] => none

def letterSet? (c : Char) : Option Member :=
  match c with
  | 'd' => some (.ranges digits)
  | 's' => some (.ranges blanks)
  | 'w' => some (.ranges wordRanges)
  | 'D' => some (.except (.ranges digits))
  | 'S' => some (.except (.ranges blanks))
  | 'W' => some (.except (.ranges wordRanges))
  | _ => none

def readProperty (negated : Bool) (s : List Char) : Option (Member × List Char) := do
  let (name, s) ← match s with
    | '\x7b' :: s =>
      match s.span (· ≠ '\x7d') with
      | (name, _ :: rest) => some (name, rest)
      | _ => none
    | c :: s => some ([c], s)
    | [] => none
  let (negated, name) := match name with
    | '^' :: name => (!negated, name)
    | name => (negated, name)
  let member ← property? (String.ofList name)
  return (if negated then .except member else member, s)

def readSetEscape : List Char → Option (Member × List Char)
  | 'p' :: s => readProperty false s
  | 'P' :: s => readProperty true s
  | c :: s => (letterSet? c).map (·, s)
  | [] => none

def readNamed (s : List Char) : Option (Option Member × List Char) :=
  let (name, rest) := s.span (· ≠ ':')
  match rest with
  | ':' :: ']' :: rest =>
    match name with
    | '^' :: name =>
      (namedSets.lookup (String.ofList name)).map fun set => (some (.except (.ranges set)), rest)
    | name => (namedSets.lookup (String.ofList name)).map fun set => (some (.ranges set), rest)
  | _ => some (none, s)

def readSetChar : List Char → Option (Char × List Char)
  | '\\' :: s => readEscape s
  | c :: s => some (c, s)
  | [] => none

/-- A character, or a range of them if a hyphen follows that is not the last in the bracket. -/
def readRange (s : List Char) : Option (Member × List Char) := do
  let (first, s) ← readSetChar s
  match s with
  | '-' :: ']' :: _ => return (.single first, s)
  | '-' :: c :: s =>
    let (last, s) ← readSetChar (c :: s)
    if last < first then none else return (.range first.toNat last.toNat, s)
  | s => return (.single first, s)

def readMember (s : List Char) : Option (Member × List Char) :=
  match s with
  | '[' :: ':' :: rest =>
    match readNamed rest with
    | none => none
    | some (some member, rest) => some (member, rest)
    | some (none, _) => readRange s
  | '\\' :: c :: rest =>
    if c = 'p' ∨ c = 'P' ∨ (letterSet? c).isSome then readSetEscape (c :: rest) else readRange s
  | _ => readRange s

def readMembers : Nat → Bool → List Char → Option (List Member × List Char)
  | 0, _, _ => none
  | fuel + 1, isFirst, s =>
    match s with
    | [] => none
    | c :: rest =>
      if c = ']' ∧ !isFirst then some ([], rest)
      else do
        let (member, s) ← readMember s
        let (members, s) ← readMembers fuel false s
        return (member :: members, s)

def readBracket (flags : Flags) (s : List Char) : Option (Expression × List Char) := do
  let (negated, s) := match s with
    | '^' :: s => (true, s)
    | s => (false, s)
  let (members, s) ← readMembers (s.length + 1) true s
  return (.chars ⟨members, negated, flags.foldsCase⟩, s)

/-- The flags up to the colon or the parenthesis; `on` tells which way they are set, `any` whether
one is set so. -/
def readFlags (flags : Flags) (on any : Bool) : List Char → Option (Flags × Bool × List Char)
  | [] => none
  | c :: s =>
    match c with
    | 'i' => readFlags { flags with foldsCase := on } on true s
    | 'm' => readFlags { flags with multiline := on } on true s
    | 's' => readFlags { flags with dotAll := on } on true s
    | 'U' => readFlags flags on true s
    | '-' => if on then readFlags flags false false s else none
    | ':' => if on || any then some (flags, true, s) else none
    | ')' => if on || any then some (flags, false, s) else none
    | _ => none

inductive Opening
  | group (flags : Flags) (rest : List Char)
  | flags (flags : Flags) (rest : List Char)

def readOpening (flags : Flags) : List Char → Option Opening
  | '?' :: 'P' :: '<' :: s =>
    match s.span isWord with
    | (name, '>' :: s) => if name = [] then none else some (.group flags s)
    | _ => none
  | '?' :: s => (readFlags flags true false s).map fun (flags, isGroup, s) =>
    if isGroup then .group flags s else .flags flags s
  | s => some (.group flags s)

def readAtom (flags : Flags) : List Char → Option (Expression × List Char)
  | '[' :: s => readBracket flags s
  | '.' :: s => some (.chars (if flags.dotAll then .any else .inLine), s)
  | '^' :: s => some (.assertion (if flags.multiline then .lineStart else .textStart), s)
  | '$' :: s => some (.assertion (if flags.multiline then .lineEnd else .textEnd), s)
  | '\\' :: 'b' :: s => some (.assertion .wordBoundary, s)
  | '\\' :: 'B' :: s => some (.assertion .noWordBoundary, s)
  | '\\' :: 'A' :: s => some (.assertion .textStart, s)
  | '\\' :: 'z' :: s => some (.assertion .textEnd, s)
  | '\\' :: c :: s =>
    if c = 'p' ∨ c = 'P' ∨ (letterSet? c).isSome then
      (readSetEscape (c :: s)).map fun (member, s) => (.chars (.ofMembers [member] flags.foldsCase), s)
    else (readEscape (c :: s)).map fun (c, s) => (.chars (.ofMembers [.single c] flags.foldsCase), s)
  | c :: s =>
    if c = '\\' ∨ (repetition? (c :: s)).isSome then none
    else some (.chars (.ofMembers [.single c] flags.foldsCase), s)
  | [] => none

mutual

def readEither : Nat → Flags → List Char → Option (Expression × Flags × List Char)
  | 0, _, _ => none
  | fuel + 1, flags, s => do
    let (e, flags, s) ← readSequence fuel flags s
    match s with
    | '|' :: s =>
      let (rest, flags, s) ← readEither fuel flags s
      return (.either e rest, flags, s)
    | s => return (e, flags, s)

def readSequence : Nat → Flags → List Char → Option (Expression × Flags × List Char)
  | 0, _, _ => none
  | fuel + 1, flags, s =>
    match s with
    | [] | '|' :: _ | ')' :: _ => some (.empty, flags, s)
    | '(' :: s => do
      let (e, flags, s) ← readGroup fuel flags s
      let (e, s) ← repeated e s
      let (rest, flags, s) ← readSequence fuel flags s
      return (.sequence e rest, flags, s)
    | s => do
      let (e, s) ← readAtom flags s
      let (e, s) ← repeated e s
      let (rest, flags, s) ← readSequence fuel flags s
      return (.sequence e rest, flags, s)

def readGroup : Nat → Flags → List Char → Option (Expression × Flags × List Char)
  | 0, _, _ => none
  | fuel + 1, flags, s => do
    match ← readOpening flags s with
    | .flags flags s => return (.empty, flags, s)
    | .group inner s =>
      match ← readEither fuel inner s with
      | (e, _, ')' :: s) => return (e, flags, s)
      | _ => none

end

end Reader

def Expression.ofText? (text : String) : Option Expression :=
  match Reader.readEither (4 * text.length + 4) Reader.Flags.start text.toList with
  | some (e, _, []) => some e
  | _ => none

end Compliance.Search
