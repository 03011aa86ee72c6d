/-!
A place in a YAML text.

The text is taken with its line ends made one: carriage returns and next-line characters read as
line feeds. A cursor knows what is left, and its line, column and index, all counted from zero.
-/

namespace Compliance.Yaml

inductive Fault
  | character (code : Nat)
  | indentation (line : Nat)
  | unexpected (what : String) (line : Nat)
  | unfinished (what : String) (line : Nat)
  | unknown (what name : String)
  | notOneDocument
  | tooDeep
  | tooManyAliases
  | customTag (tag : String)
  | wrongScalar (wanted text : String)
  | misplaced (what : String)
  deriving DecidableEq, Repr, Inhabited

def Fault.message : Fault → String
  | character code => "control characters are not allowed (code " ++ toString code ++ ")"
  | indentation line => "wrong indentation in line " ++ toString (line + 1)
  | unexpected what line => "unexpected " ++ what ++ " in line " ++ toString (line + 1)
  | unfinished what line => "unfinished " ++ what ++ " in line " ++ toString (line + 1)
  | unknown what name => "unknown " ++ what ++ " '" ++ name ++ "'"
  | notOneDocument => "expected one document"
  | tooDeep => "nested too deep"
  | tooManyAliases => "too many aliases"
  | customTag tag => "unexpected tag " ++ tag
  | wrongScalar wanted text => "expected " ++ wanted ++ ", found '" ++ text ++ "'"
  | misplaced what => "unexpected " ++ what

def lineSeparator : Char := Char.ofNat 0x2028

def paragraphSeparator : Char := Char.ofNat 0x2029

def byteOrderMark : Char := Char.ofNat 0xFEFF

def isBreak (c : Char) : Bool := c = '\n' || c = lineSeparator || c = paragraphSeparator

def isSpace (c : Char) : Bool := c = ' ' || c = '\t'

def isGap (c : Char) : Bool := isSpace c || isBreak c

def isWordLetter (c : Char) : Bool := c.isAlphanum || c = '_' || c = '-'

def startsGap : List Char → Bool
  | [] => true
  | c :: _ => isGap c

def isAllowed (c : Char) : Bool :=
  let n := c.toNat
  n = 9 || n = 10 || n = 13 || (0x20 ≤ n && n ≤ 0x7E) || n = 0x85 || (0xA0 ≤ n && n ≤ 0xFFFD) ||
    0x10000 ≤ n

def normalise : List Char → List Char
  | [] => []
  | '\r' :: '\n' :: rest => '\n' :: normalise rest
  | c :: rest => (if c = '\r' ∨ c = Char.ofNat 0x85 then '\n' else c) :: normalise rest

/-- Whether a line of three dashes or three dots, or one that goes on after a gap, starts here. -/
def startsDocumentMark : List Char → Bool
  | '-' :: '-' :: '-' :: rest | '.' :: '.' :: '.' :: rest => startsGap rest
  | _ => false

structure Cursor where
  rest : List Char
  line : Nat
  column : Nat
  index : Nat
  deriving DecidableEq, Repr, Inhabited

namespace Cursor

def ofText (text : List Char) : Cursor := ⟨normalise text, 0, 0, 0⟩

def next (cursor : Cursor) : Cursor :=
  match cursor.rest with
  | [] => cursor
  | c :: rest =>
    if isBreak c then ⟨rest, cursor.line + 1, 0, cursor.index + 1⟩
    else ⟨rest, cursor.line, cursor.column + 1, cursor.index + 1⟩

def advance (cursor : Cursor) : Nat → Cursor
  | 0 => cursor
  | n + 1 => cursor.next.advance n

def span (cursor : Cursor) (test : Char → Bool) : List Char × Cursor :=
  let letters := cursor.rest.takeWhile test
  (letters, cursor.advance letters.length)

def skipWhile (cursor : Cursor) (test : Char → Bool) : Cursor := (cursor.span test).2

def skipComment (cursor : Cursor) : Cursor :=
  match cursor.rest with
  | '#' :: _ => cursor.skipWhile fun c => !isBreak c
  | _ => cursor

def endLine (cursor : Cursor) : Except Fault Cursor :=
  let cursor := (cursor.skipWhile isSpace).skipComment
  match cursor.rest with
  | [] => .ok cursor
  | c :: _ => if isBreak c then .ok cursor.next else .error (.unexpected "text" cursor.line)

end Cursor

end Compliance.Yaml
