import Compliance.Number.Reading
import Compliance.Pattern.Fault
import Compliance.Pattern.Property
import Compliance.Text.Alphabetic
import Compliance.Text.Blank

/-!
What a backslash begins in a pattern.

In extended mode blanks and comments may stand between the characters of the longer escapes.
-/

namespace Compliance.Pattern

structure Mode where
  extended : Bool
  unicode : Bool
  deriving DecidableEq, Repr, Inhabited

def skipBlanks (inComment : Bool) : List Char → List Char
  | [] => []
  | c :: rest =>
    if inComment then skipBlanks (c ≠ '\n') rest
    else if Text.isBlank c then skipBlanks false rest
    else if c = '#' then skipBlanks true rest
    else c :: rest

def Mode.skip (mode : Mode) (s : List Char) : List Char :=
  if mode.extended then skipBlanks false s else s

theorem length_skipBlanks_le (inComment : Bool) (s : List Char) : (skipBlanks inComment s).length ≤
    s.length := by
  induction s generalizing inComment with
  | nil => simp [skipBlanks]
  | cons c rest ih =>
    unfold skipBlanks
    split
    · exact Nat.le_succ_of_le (ih _)
    · split
      · exact Nat.le_succ_of_le (ih _)
      · split
        · exact Nat.le_succ_of_le (ih _)
        · exact Nat.le_refl _

theorem Mode.length_skip_le (mode : Mode) (s : List Char) : (mode.skip s).length ≤ s.length := by
  unfold Mode.skip
  split
  · exact length_skipBlanks_le _ _
  · exact Nat.le_refl _

def braced? (extended inComment : Bool) : List Char → Option (List Char × List Char)
  | [] => none
  | c :: rest =>
    if inComment then braced? extended (c ≠ '\n') rest
    else if extended ∧ Text.isBlank c then braced? extended false rest
    else if extended ∧ c = '#' then braced? extended true rest
    else if c = '}' then some ([], rest)
    else (braced? extended false rest).map fun (name, after) => (c :: name, after)

inductive Shorthand
  | digit | space | word
  deriving DecidableEq, Repr, Inhabited

inductive Escape
  /-- A character; `byte` if it was given by two hexadecimal digits. -/
  | literal (c : Char) (byte : Bool)
  | shorthand (kind : Shorthand) (negated : Bool)
  | property (bytes : Nat)
  | assertion
  deriving Repr, Inhabited

def hexValue? (c : Char) : Option Nat :=
  if Number.isDigit c then some (c.toNat - '0'.toNat)
  else if 'a' ≤ c ∧ c ≤ 'f' then some (c.toNat - 'a'.toNat + 10)
  else if 'A' ≤ c ∧ c ≤ 'F' then some (c.toNat - 'A'.toNat + 10)
  else none

def hexLiteral (digits : List Char) (byte : Bool) : Except Fault Escape :=
  if digits = [] then .error .hexEmpty
  else if digits.any fun c => (hexValue? c).isNone then .error .hexDigit
  else
    let n := digits.foldl (fun n c => 16 * n + (hexValue? c).getD 0) 0
    if h : n.isValidChar then .ok (.literal (Char.ofNatAux n h) byte) else .error .hexInvalid

def takeSkipping (mode : Mode) : Nat → List Char → Except Fault (List Char × List Char)
  | 0, s => .ok ([], s)
  | _ + 1, [] => .error .escapeOpen
  | n + 1, c :: rest => do
    if (hexValue? c).isNone then throw .hexDigit
    let (taken, after) ← takeSkipping mode n (mode.skip rest)
    return (c :: taken, after)

def readHex (mode : Mode) (width : Nat) (s : List Char) : Except Fault (Escape × List Char) := do
  match mode.skip s with
  | [] => throw .escapeOpen
  | '{' :: rest =>
    match braced? mode.extended false rest with
    | none => throw .escapeOpen
    | some (digits, after) => return (← hexLiteral digits false, after)
  | s =>
    let (digits, after) ← takeSkipping mode width s
    return (← hexLiteral digits (width = 2), after)

def checkPropertyValue (property value : List Char) : Except Fault Unit :=
  if (propertyValues? (looseName property)).isNone then .error .propertyUnknown
  else if isPropertyValue property value then .ok ()
  else .error .propertyValueUnknown

/-- A name, or a name and a value: `!=` divides them before a colon does, and a colon before an
equals sign. -/
def namedProperty (name : List Char) : Except Fault Escape :=
  let divider (at? : Option Nat) (width : Nat) : Option (Nat × Nat) := at?.map (·, width)
  let unequal := divider ((name.zip (name.drop 1)).findIdx? (· = ('!', '='))) 2
  let colon := divider (name.findIdx? (· = ':')) 1
  let equal := divider (name.findIdx? (· = '=')) 1
  match unequal <|> colon <|> equal with
  | some (i, width) => do
    checkPropertyValue (name.take i) (name.drop (i + width))
    return .property (classBytes (name.drop (i + width)))
  | none => if isProperty name then .ok (.property (classBytes name)) else .error .propertyUnknown

def readProperty (mode : Mode) (s : List Char) : Except Fault (Escape × List Char) := do
  if !mode.unicode then throw .unicodeOnly
  match mode.skip s with
  | [] => throw .escapeOpen
  | '{' :: rest =>
    match braced? mode.extended false rest with
    | none => throw .escapeOpen
    | some (name, after) => return (← namedProperty name, after)
  | c :: rest => return (← namedProperty [c], rest)

def boundaryNames : List String := ["start", "end", "start-half", "end-half"]

/-- After `\b` a brace may name the side of the word; a brace that does not begin with a letter is
left alone. -/
def readBoundary (mode : Mode) (s : List Char) : Except Fault (List Char) := do
  match s with
  | '{' :: rest =>
    match mode.skip rest with
    | [] => throw .boundaryUnclosed
    | c :: _ =>
      if !(c.isAlpha || c = '-') then return s
      match braced? mode.extended false rest with
      | none => throw .boundaryUnclosed
      | some (name, after) =>
        if name.any fun c => !(c.isAlpha || c = '-') then throw .boundaryUnclosed
        if boundaryNames.contains (String.ofList name) then return after else throw .boundaryUnknown
  | _ => return s

def readEscape (mode : Mode) : List Char → Except Fault (Escape × List Char)
  | [] => .error .escapeOpen
  | c :: rest =>
    match c with
    | 'x' => readHex mode 2 rest
    | 'u' => readHex mode 4 rest
    | 'U' => readHex mode 8 rest
    | 'p' | 'P' => readProperty mode rest
    | 'd' => .ok (.shorthand .digit false, rest)
    | 's' => .ok (.shorthand .space false, rest)
    | 'w' => .ok (.shorthand .word false, rest)
    | 'D' => .ok (.shorthand .digit true, rest)
    | 'S' => .ok (.shorthand .space true, rest)
    | 'W' => .ok (.shorthand .word true, rest)
    | 'a' => .ok (.literal '\x07' false, rest)
    | 'f' => .ok (.literal '\x0c' false, rest)
    | 't' => .ok (.literal '\t' false, rest)
    | 'n' => .ok (.literal '\n' false, rest)
    | 'r' => .ok (.literal '\r' false, rest)
    | 'v' => .ok (.literal '\x0b' false, rest)
    | 'A' | 'z' | 'B' | '<' | '>' => .ok (.assertion, rest)
    | 'b' => (readBoundary mode rest).map fun after => (.assertion, after)
    | c =>
      if Number.isDigit c then .error .backreference
      else if c.isAlpha ∨ c.toNat ≥ 0x80 then .error .escapeUnknown
      else .ok (.literal c false, rest)

end Compliance.Pattern
