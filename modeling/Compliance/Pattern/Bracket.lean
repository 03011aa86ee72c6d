import Compliance.Pattern.Escape
import Compliance.Pattern.Part

/-!
Bracketed classes: items, ranges, named ASCII classes, nested brackets, and the operators `&&`, `--`
and `~~`.
-/

namespace Compliance.Pattern

structure ClassSize where
  bytes : Nat
  ascii : Bool
  deriving Repr, Inhabited

namespace ClassSize

def shorthand (mode : Mode) (kind : Shorthand) (negated : Bool) : ClassSize :=
  match kind, negated, mode.unicode with
  | .digit, false, true => ⟨5120, false⟩
  | .digit, true, true => ⟨12760, false⟩
  | .space, false, true => ⟨616, false⟩
  | .space, true, true => ⟨1860, false⟩
  | .word, false, true => ⟨50252, false⟩
  | .word, true, true => ⟨46836, false⟩
  | .digit, _, false => ⟨8, true⟩
  | .space, _, false => ⟨16, true⟩
  | .word, _, false => ⟨32, true⟩

def range (high : Char) : ClassSize := if high.toNat < 0x80 then ⟨8, true⟩ else ⟨200, false⟩

def union (a b : ClassSize) : ClassSize := ⟨a.bytes + b.bytes, a.ascii && b.ascii⟩

def complement (a : ClassSize) : ClassSize := if a.ascii then ⟨a.bytes + 900, false⟩ else a

def total (a : ClassSize) : Nat := a.bytes + 2 * Part.stepBytes

end ClassSize

def shorthandSize (mode : Mode) (kind : Shorthand) (negated : Bool) : Except Fault ClassSize :=
  if negated ∧ !mode.unicode then .error .bytesOnly else .ok (ClassSize.shorthand mode kind negated)

structure ClassItem where
  depth : Nat
  size : ClassSize
  deriving Repr, Inhabited

namespace ClassItem

def ofItems : List ClassItem → ClassItem
  | [] => ⟨0, ⟨0, true⟩⟩
  | [item] => item
  | items =>
    ⟨(items.map (·.depth)).foldl max 0 + 1, (items.map (·.size)).foldl ClassSize.union ⟨0, true⟩⟩

def operation (left right : ClassItem) : ClassItem :=
  ⟨max left.depth right.depth + 1, left.size.union right.size⟩

end ClassItem

def asciiClasses : List String :=
  ["alnum", "alpha", "ascii", "blank", "cntrl", "digit", "graph", "lower", "print", "punct",
    "space", "upper", "word", "xdigit"]

def asciiClass? : List Char → Option (Bool × List Char)
  | ':' :: rest =>
    let (negated, rest) := match rest with
      | '^' :: rest => (true, rest)
      | _ => (false, rest)
    let (name, after) := rest.span (· ≠ ':')
    match after with
    | ':' :: ']' :: after =>
      if asciiClasses.contains (String.ofList name) then some (negated, after) else none
    | _ => none
  | _ => none

def classLiteral (mode : Mode) (c : Char) (byte : Bool) : Except Fault Char :=
  if mode.unicode ∨ c.toNat < 0x80 then .ok c else .error (if byte then .bytesOnly else .unicodeOnly)

def readClassPrimitive (mode : Mode) : List Char → Except Fault (Escape × List Char)
  | [] => .error .classUnclosed
  | '\\' :: rest => readEscape mode rest
  | c :: rest => .ok (.literal c false, rest)

def primitiveItem (mode : Mode) : Escape → Except Fault ClassItem
  | .literal c byte => (classLiteral mode c byte).map fun c => ⟨0, ClassSize.range c⟩
  | .shorthand kind negated => (shorthandSize mode kind negated).map (⟨0, ·⟩)
  | .property bytes => .ok ⟨0, ⟨bytes, false⟩⟩
  | .assertion => .error .classEscape

def rangeBound (mode : Mode) : Escape → Except Fault Char
  | .literal c byte => classLiteral mode c byte
  | _ => .error .rangeEnd

/-- The character after the next one. Only the sign that begins a comment is passed over, not its
text. -/
def peek (mode : Mode) (rest : List Char) : Option Char :=
  if !mode.extended then rest.head?
  else
    match rest.dropWhile Text.isBlank with
    | '#' :: rest => (rest.dropWhile Text.isBlank).head?
    | rest => rest.head?

def readClassRange (mode : Mode) (s : List Char) : Except Fault (ClassItem × List Char) := do
  let (first, rest) ← readClassPrimitive mode s
  match mode.skip rest with
  | [] => throw .classUnclosed
  | '-' :: after =>
    let next := peek mode after
    if next = some ']' ∨ next = some '-' then return (← primitiveItem mode first, '-' :: after)
    let (second, rest) ← readClassPrimitive mode (mode.skip after)
    let low ← rangeBound mode first
    let high ← rangeBound mode second
    if low > high then throw .rangeReversed
    return (⟨0, ClassSize.range high⟩, rest)
  | rest => return (← primitiveItem mode first, rest)

/-- What has been read of a class: the items since the last operator, last first, and what stands
before it. -/
structure ClassBody where
  items : List ClassItem
  left : Option ClassItem
  deriving Repr, Inhabited

namespace ClassBody

def push (body : ClassBody) (item : ClassItem) : ClassBody := { body with items := item :: body.items }

def value (body : ClassBody) : ClassItem :=
  let right := ClassItem.ofItems body.items
  match body.left with
  | some left => left.operation right
  | none => right

def operator (body : ClassBody) : ClassBody := ⟨[], some body.value⟩

end ClassBody

def leadingHyphens (mode : Mode) (s : List Char) : Nat × List Char :=
  match s with
  | '-' :: rest =>
    let (n, after) := leadingHyphens mode (mode.skip rest)
    (n + 1, after)
  | _ => (0, s)
termination_by s.length
decreasing_by exact Nat.lt_succ_of_le (mode.length_skip_le rest)

mutual

def readClass (mode : Mode) : Nat → List Char → Except Fault (ClassItem × List Char)
  | 0, _ => .error .tooDeep
  | fuel + 1, s => do
    let (negated, s) := match mode.skip s with
      | '^' :: rest => (true, mode.skip rest)
      | s => (false, s)
    let literal : ClassItem := ⟨0, ClassSize.range '-'⟩
    let (hyphens, s) := leadingHyphens mode s
    let (items, s) := match hyphens, s with
      | 0, ']' :: rest => ([literal], rest)
      | _, _ => (List.replicate hyphens literal, s)
    let (inner, rest) ← readClassBody mode fuel ⟨items, none⟩ s
    if negated ∧ !mode.unicode then throw .bytesOnly
    return (⟨inner.depth + 1, if negated then inner.size.complement else inner.size⟩, rest)

def readClassBody (mode : Mode) : Nat → ClassBody → List Char → Except Fault (ClassItem × List Char)
  | 0, _, _ => .error .tooDeep
  | fuel + 1, body, s => do
    match mode.skip s with
    | [] => throw .classUnclosed
    | ']' :: rest => return (body.value, rest)
    | '&' :: '&' :: rest | '-' :: '-' :: rest | '~' :: '~' :: rest =>
      readClassBody mode fuel body.operator rest
    | '[' :: rest =>
      match asciiClass? rest with
      | some (negated, rest) =>
        if negated ∧ !mode.unicode then throw .bytesOnly
        readClassBody mode fuel (body.push ⟨0, ⟨24, true⟩⟩) rest
      | none =>
        let (item, rest) ← readClass mode fuel rest
        readClassBody mode fuel (body.push item) rest
    | s =>
      let (item, rest) ← readClassRange mode s
      readClassBody mode fuel (body.push item) rest

end

end Compliance.Pattern
