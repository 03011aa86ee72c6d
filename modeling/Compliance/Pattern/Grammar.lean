import Compliance.Pattern.Bracket

/-!
The grammar of patterns.

`check` accepts a pattern or says what is wrong with it. The flags are part of the reading: extended
mode passes over blanks and comments, and without the scripts of Unicode what could match half a
character is refused. A pattern may nest 250 deep and its compiled form may take ten mebibytes.
-/

namespace Compliance.Pattern

inductive FlagItem
  | negation
  | flag (c : Char)
  deriving DecidableEq, Repr

def readFlags (seen : List FlagItem) : List Char → Except Fault (List FlagItem × List Char)
  | [] => .error .flagsOpen
  | c :: rest =>
    if c = ':' ∨ c = ')' then
      if seen.head? = some .negation then .error .negationDangling else .ok (seen.reverse, c :: rest)
    else if c = '-' then
      if seen.contains .negation then .error .negationRepeated else readFlags (.negation :: seen) rest
    else if ['i', 'm', 's', 'U', 'u', 'R', 'x'].contains c then
      if seen.contains (.flag c) then .error .flagRepeated else readFlags (.flag c :: seen) rest
    else .error .flagUnknown

def flagState? (c : Char) (flags : List FlagItem) : Option Bool :=
  if flags.contains (.flag c) then some (!(flags.takeWhile (· ≠ .flag c)).contains .negation) else none

def Mode.apply (mode : Mode) (flags : List FlagItem) : Mode :=
  ⟨(flagState? 'x' flags).getD mode.extended, (flagState? 'u' flags).getD mode.unicode⟩

def isNameChar (first : Bool) (c : Char) : Bool :=
  c = '_' || if first then Text.isAlphabetic c else Text.isAlphanumeric c || c = '.' || c = '[' ||
    c = ']'

def readGroupName (names : List (List Char)) (s : List Char) : Except Fault (List Char × List Char) := do
  let (name, after) := s.span (· ≠ '>')
  match name, after with
  | [], '>' :: _ => throw .nameEmpty
  | first :: others, _ =>
    if !(isNameChar true first && others.all (isNameChar false)) then throw .nameInvalid
  | [], _ => pure ()
  match after with
  | '>' :: rest => if names.contains name then throw .nameRepeated else return (name, rest)
  | _ => throw .nameOpen

inductive GroupHead
  | captured (name : Option (List Char))
  | uncaptured (flags : List FlagItem)
  | flags (flags : List FlagItem)

def readGroupHead (mode : Mode) (names : List (List Char)) (s : List Char) :
    Except Fault (GroupHead × List Char) := do
  match mode.skip s with
  | '?' :: '=' :: _ | '?' :: '!' :: _ | '?' :: '<' :: '=' :: _ | '?' :: '<' :: '!' :: _ =>
    throw .lookAround
  | '?' :: 'P' :: '<' :: rest | '?' :: '<' :: rest =>
    let (name, rest) ← readGroupName names rest
    return (.captured (some name), rest)
  | ['?'] => throw .groupUnclosed
  | '?' :: rest =>
    let (flags, rest) ← readFlags [] rest
    match rest with
    | ')' :: rest => if flags = [] then throw .nothingToRepeat else return (.flags flags, rest)
    | rest => return (.uncaptured flags, rest.drop 1)
  | s => return (.captured none, s)

def countDigits (mode : Mode) (s : List Char) : List Char × List Char :=
  match s with
  | [] => ([], [])
  | c :: rest =>
    if Number.isDigit c then
      let (digits, after) := countDigits mode (mode.skip rest)
      (c :: digits, after)
    else ([], c :: rest)
termination_by s.length
decreasing_by exact Nat.lt_succ_of_le (mode.length_skip_le rest)

def readCount (mode : Mode) (s : List Char) : Except Fault (Option Nat × List Char) := do
  let (digits, rest) := countDigits mode ((mode.skip s).dropWhile Text.isBlank)
  let n := Number.digitsValue digits
  if n ≥ Nat.pow 2 32 then throw .countInvalid
  return (if digits = [] then none else some n, mode.skip (rest.dropWhile Text.isBlank))

def neededCount : Option Nat → Except Fault Nat
  | some n => .ok n
  | none => .error .countEmpty

def readBounds (mode : Mode) (s : List Char) : Except Fault ((Nat × Option Nat) × List Char) := do
  if mode.skip s = [] then throw .countUnclosed
  let (low, rest) ← readCount mode s
  match rest with
  | ',' :: rest =>
    match mode.skip rest with
    | '}' :: rest => return ((← neededCount low, none), rest)
    | [] => throw .countUnclosed
    | rest =>
      let low ← neededCount low
      let (high, rest) ← readCount mode rest
      let high ← neededCount high
      match rest with
      | '}' :: rest => if high < low then throw .countReversed else return ((low, some high), rest)
      | _ => throw .countUnclosed
  | '}' :: rest =>
    let n ← neededCount low
    return ((n, some n), rest)
  | _ => throw .countUnclosed

structure Body where
  mode : Mode
  parts : List (Option Part)
  branches : List Part
  names : List (List Char)
  deriving Repr, Inhabited

namespace Body

def push (body : Body) (part : Part) : Body := { body with parts := some part :: body.parts }

def branch (body : Body) : Part :=
  match body.parts with
  | [none] => Part.empty
  | parts => Part.sequence (parts.map fun part => part.getD Part.empty)

def nextBranch (body : Body) : Body :=
  { body with branches := body.branch :: body.branches, parts := [] }

def value (body : Body) : Part := Part.alternatives (body.branch :: body.branches)

def repeatLast (body : Body) (low : Nat) (high : Option Nat) : Except Fault Body :=
  match body.parts with
  | some part :: parts => .ok { body with parts := some (part.repeated low high) :: parts }
  | _ => .error .nothingToRepeat

end Body

def skipLazy : List Char → List Char
  | '?' :: rest => rest
  | rest => rest

def escapePart (mode : Mode) : Escape → Except Fault Part
  | .literal c byte =>
    if byte ∧ !mode.unicode ∧ c.toNat ≥ 0x80 then .error .bytesOnly else .ok (Part.literal c)
  | .shorthand kind negated =>
    (shorthandSize mode kind negated).map fun size => Part.charClass 0 size.total
  | .property bytes => .ok (Part.charClass 0 (ClassSize.total ⟨bytes, false⟩))
  | .assertion => .ok Part.assertion

def readBody : Nat → Body → List Char → Except Fault (Body × List Char)
  | 0, _, _ => .error .tooDeep
  | fuel + 1, body, s => do
    match body.mode.skip s with
    | [] => return (body, [])
    | ')' :: rest => return (body, ')' :: rest)
    | '|' :: rest => readBody fuel body.nextBranch rest
    | '(' :: rest =>
      let (head, rest) ← readGroupHead body.mode body.names rest
      match head with
      | .flags flags =>
        readBody fuel { body with mode := body.mode.apply flags, parts := none :: body.parts } rest
      | .uncaptured flags => readGroup fuel body (body.mode.apply flags) body.names false rest
      | .captured name => readGroup fuel body body.mode (name.toList ++ body.names) true rest
    | '[' :: rest =>
      let (item, rest) ← readClass body.mode (2 * rest.length + 2) rest
      readBody fuel (body.push (Part.charClass item.depth item.size.total)) rest
    | '?' :: rest => readBody fuel (← body.repeatLast 0 (some 1)) (skipLazy rest)
    | '*' :: rest => readBody fuel (← body.repeatLast 0 none) (skipLazy rest)
    | '+' :: rest => readBody fuel (← body.repeatLast 1 none) (skipLazy rest)
    | '{' :: rest =>
      if (body.parts.head?.bind id).isNone then throw .nothingToRepeat
      let ((low, high), rest) ← readBounds body.mode rest
      readBody fuel (← body.repeatLast low high) (skipLazy (body.mode.skip rest))
    | '\\' :: rest =>
      let (escape, rest) ← readEscape body.mode rest
      readBody fuel (body.push (← escapePart body.mode escape)) rest
    | '.' :: rest =>
      if !body.mode.unicode then throw .bytesOnly
      readBody fuel (body.push (Part.charClass 0 1000)) rest
    | '^' :: rest | '$' :: rest => readBody fuel (body.push Part.assertion) rest
    | c :: rest => readBody fuel (body.push (Part.literal c)) rest
where
  readGroup (fuel : Nat) (body : Body) (mode : Mode) (names : List (List Char)) (captured : Bool)
    (s : List Char) :
      Except Fault (Body × List Char) := do
    let (inner, rest) ← readBody fuel ⟨mode, [], [], names⟩ s
    match rest with
    | ')' :: rest =>
      readBody fuel { body.push (inner.value.group captured) with names := inner.names } rest
    | _ => throw .groupUnclosed

def measure (pattern : String) : Except Fault Part := do
  let s := pattern.toList
  let (body, rest) ← readBody (2 * s.length + 1) ⟨⟨false, true⟩, [], [], []⟩ s
  if rest ≠ [] then throw .groupUnopened
  return body.value

def check (pattern : String) : Except Fault Unit := do
  let part ← measure pattern
  if part.depth > Part.maxDepth then throw .tooDeep
  if part.bytes > Part.maxBytes then throw .tooLarge

end Compliance.Pattern
