import Compliance.Json.Token
import Compliance.Yaml.Cursor

/-!
Scalars: plain, quoted, and as blocks.

A gap between two words is kept as it is if it stays in one line. If it runs over lines, one line
end reads as a blank and several as one less (`Gap.text`).
-/

namespace Compliance.Yaml

inductive Style
  | plain
  | singleQuoted
  | doubleQuoted
  | literal
  | folded
  deriving DecidableEq, Repr, Inhabited

/-- White space since the last word, last character first. -/
inductive Gap
  | spaces (letters : List Char)
  | breaks (first : Option Char) (more : List Char)
  deriving DecidableEq, Repr, Inhabited

namespace Gap

def none : Gap := spaces []

def text : Gap → List Char
  | spaces letters => letters
  | breaks (some first) more =>
    if first = '\n' then (if more = [] then [' '] else more) else more ++ [first]
  | breaks .none more => more

def push (c : Char) : Gap → Gap
  | spaces letters => if isBreak c then breaks (some c) [] else spaces (c :: letters)
  | breaks first more => if isBreak c then breaks first (c :: more) else breaks first more

def isBroken : Gap → Bool
  | spaces _ => false
  | breaks .. => true

end Gap

structure ScalarText where
  text : String
  broken : Bool
  after : Cursor
  deriving Repr, Inhabited

def isFlowMark (c : Char) : Bool := c = ',' || c = '[' || c = ']' || c = '{' || c = '}'

def endsPlain (inFlow : Bool) (c : Char) (rest : List Char) : Bool :=
  (c = ':' && startsGap rest) || (inFlow && isFlowMark c)

def followsColon : List Char → Bool
  | c :: _ => c = '?' || isFlowMark c
  | [] => false

namespace Plain

def finish (text : List Char) (gap : Gap) (cursor : Cursor) : ScalarText :=
  ⟨String.ofList text.reverse, gap.isBroken, cursor⟩

/-- Reads on with the letters read so far, last first, and the gap since. Lines have to start at
`floor` or deeper. -/
def readFrom (inFlow : Bool) (floor : Nat) :
    Nat → List Char → Gap → Cursor → Except Fault ScalarText
  | 0, text, gap, cursor => .ok (finish text gap cursor)
  | fuel + 1, text, gap, cursor =>
    match cursor.rest with
    | [] => .ok (finish text gap cursor)
    | c :: rest =>
      if isGap c then
        if gap.isBroken && c = '\t' && cursor.column < floor then .error (.indentation cursor.line)
        else readFrom inFlow floor fuel text (gap.push c) cursor.next
      else if gap ≠ .none && ((!inFlow && cursor.column < floor) || c = '#'
          || (cursor.column = 0 && startsDocumentMark cursor.rest)) then
        .ok (finish text gap cursor)
      else if inFlow && c = ':' && followsColon rest then .error (.unexpected ":" cursor.line)
      else if endsPlain inFlow c rest then .ok (finish text gap cursor)
      else readFrom inFlow floor fuel (c :: (gap.text ++ text)) .none cursor.next

def read (inFlow : Bool) (floor : Nat) (cursor : Cursor) : Except Fault ScalarText :=
  readFrom inFlow floor (cursor.rest.length + 1) [] .none cursor

end Plain

namespace Quoted

inductive Mode
  | inside
  | escape
  | code (digits value : Nat)
  deriving Repr, Inhabited

def escaped? (c : Char) : Option Char :=
  if c = '0' then some (Char.ofNat 0)
  else if c = 'a' then some (Char.ofNat 7)
  else if c = 'b' then some (Char.ofNat 8)
  else if c = 't' ∨ c = '\t' then some '\t'
  else if c = 'n' then some '\n'
  else if c = 'v' then some (Char.ofNat 11)
  else if c = 'f' then some (Char.ofNat 12)
  else if c = 'r' then some '\r'
  else if c = 'e' then some (Char.ofNat 27)
  else if c = ' ' ∨ c = '"' ∨ c = '/' ∨ c = '\\' then some c
  else if c = 'N' then some (Char.ofNat 0x85)
  else if c = '_' then some (Char.ofNat 0xA0)
  else if c = 'L' then some lineSeparator
  else if c = 'P' then some paragraphSeparator
  else none

def codeDigits? (c : Char) : Option Nat :=
  if c = 'x' then some 2 else if c = 'u' then some 4 else if c = 'U' then some 8 else none

def isScalarValue (n : Nat) : Bool := n < 0xD800 || (0xE000 ≤ n && n ≤ 0x10FFFF)

def readFrom (double : Bool) : Nat → Mode → List Char → Gap → Cursor → Except Fault ScalarText
  | 0, _, _, _, cursor => .error (.unfinished "quoted text" cursor.line)
  | fuel + 1, mode, text, gap, cursor =>
    match cursor.rest with
    | [] => .error (.unfinished "quoted text" cursor.line)
    | c :: rest =>
      let add (text : List Char) (c : Char) : List Char := c :: (gap.text ++ text)
      match mode with
      | .escape =>
        if isBreak c then readFrom double fuel .inside (gap.text ++ text) (.breaks none []) cursor.next
        else match escaped? c, codeDigits? c with
          | some e, _ => readFrom double fuel .inside (add text e) .none cursor.next
          | none, some digits => readFrom double fuel (.code digits 0) text gap cursor.next
          | none, none => .error (.unexpected "escape" cursor.line)
      | .code digits value =>
        match Json.Token.hexValue? c with
        | none => .error (.unexpected "digit" cursor.line)
        | some d =>
          let value := 16 * value + d
          if 1 < digits then readFrom double fuel (.code (digits - 1) value) text gap cursor.next
          else if isScalarValue value then
            readFrom double fuel .inside (add text (Char.ofNat value)) .none cursor.next
          else .error (.character value)
      | .inside =>
        if isGap c then readFrom double fuel .inside text (gap.push c) cursor.next
        else if cursor.column = 0 && startsDocumentMark cursor.rest then
          .error (.unexpected "document mark" cursor.line)
        else if c = (if double then '"' else '\'') then
          if !double && rest.head? = some '\'' then
            readFrom double fuel .inside (add text '\'') .none (cursor.advance 2)
          else .ok ⟨String.ofList (gap.text ++ text).reverse, false, cursor.next⟩
        else if double && c = '\\' then readFrom double fuel .escape text gap cursor.next
        else readFrom double fuel .inside (add text c) .none cursor.next

def read (double : Bool) (cursor : Cursor) : Except Fault ScalarText :=
  readFrom double (cursor.rest.length + 1) .inside [] .none cursor.next

end Quoted

namespace Block

inductive Chomping
  | strip
  | clip
  | keep
  deriving DecidableEq, Repr, Inhabited

def chomping? (c : Char) : Option Chomping :=
  if c = '+' then some .keep else if c = '-' then some .strip else none

def digit? (c : Char) : Option Nat := if Number.isDigit c then some (c.toNat - '0'.toNat) else none

structure Header where
  chomping : Chomping
  depth : Option Nat

/-- A sign and a digit from one to nine after the mark, each at most once and in any order. -/
def readHeader (cursor : Cursor) : Except Fault (Header × Cursor) := do
  let (sign, cursor) := match cursor.rest.head? >>= chomping? with
    | some sign => (some sign, cursor.next)
    | none => (none, cursor)
  let (depth, cursor) := match cursor.rest.head? >>= digit? with
    | some d => (some d, cursor.next)
    | none => (none, cursor)
  if depth = some 0 then throw (.unexpected "indentation of zero" cursor.line)
  let (sign, cursor) := match sign, depth, cursor.rest.head? >>= chomping? with
    | none, some _, some sign => (some sign, cursor.next)
    | sign, _, _ => (sign, cursor)
  return (⟨sign.getD .clip, depth⟩, ← cursor.endLine)

/-- Passes over empty lines up to the first text; gives their line ends, last first, and the deepest
column seen. -/
def readBreaks (indent : Option Nat) : Nat → List Char → Nat → Cursor →
    Except Fault (List Char × Nat × Cursor)
  | 0, breaks, deepest, cursor => .ok (breaks, deepest, cursor)
  | fuel + 1, breaks, deepest, cursor =>
    let blanks := match indent with
      | some n => (cursor.rest.take (n - cursor.column)).takeWhile (· = ' ')
      | none => cursor.rest.takeWhile (· = ' ')
    let cursor := cursor.advance blanks.length
    let deepest := max deepest cursor.column
    match cursor.rest with
    | '\t' :: _ =>
      if indent.all (cursor.column < ·) then .error (.indentation cursor.line)
      else .ok (breaks, deepest, cursor)
    | c :: _ =>
      if isBreak c then readBreaks indent fuel (c :: breaks) deepest cursor.next
      else .ok (breaks, deepest, cursor)
    | [] => .ok (breaks, deepest, cursor)

structure Lines where
  text : List Char
  lineEnd : List Char
  empty : List Char
  startsBlank : Bool

def Lines.joint (lines : Lines) (folded startsBlank : Bool) : List Char :=
  if folded && lines.lineEnd = ['\n'] && !lines.startsBlank && !startsBlank then
    if lines.empty = [] then [' '] else lines.empty
  else lines.empty ++ lines.lineEnd

def readLines (folded : Bool) (indent : Nat) : Nat → Lines → Cursor → Except Fault (Lines × Cursor)
  | 0, lines, cursor => .ok (lines, cursor)
  | fuel + 1, lines, cursor => do
    match cursor.rest with
    | [] => return (lines, cursor)
    | c :: _ =>
      if cursor.column ≠ indent then return (lines, cursor)
      let startsBlank := isSpace c
      let (letters, cursor) := cursor.span fun c => !isBreak c
      let lineEnd := cursor.rest.take 1
      let (empty, _, cursor) ← readBreaks (some indent) (cursor.rest.length + 1) [] 0 cursor.next
      readLines folded indent fuel
        ⟨letters.reverse ++ (lines.joint folded startsBlank ++ lines.text), lineEnd, empty,
          startsBlank⟩ cursor

def read (folded : Bool) (parent : Option Nat) (cursor : Cursor) : Except Fault ScalarText := do
  let (header, cursor) ← readHeader cursor.next
  let given := header.depth.map (parent.getD 0 + ·)
  let (empty, deepest, cursor) ← readBreaks given (cursor.rest.length + 1) [] 0 cursor
  let indent := given.getD (max deepest (max 1 ((parent.map (· + 1)).getD 0)))
  let (lines, cursor) ← readLines folded indent (cursor.rest.length + 1) ⟨[], [], empty, false⟩ cursor
  let tail := match header.chomping with
    | .strip => []
    | .clip => lines.lineEnd
    | .keep => lines.empty ++ lines.lineEnd
  return ⟨String.ofList (tail ++ lines.text).reverse, true, cursor⟩

end Block

end Compliance.Yaml
