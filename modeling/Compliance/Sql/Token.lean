import Compliance.Number.Reading
import Compliance.Text.Alphabetic
import Compliance.Text.Blank

/-!
The tokens of a query text.

The text is read one character at a time by a machine whose state is the token that is being read,
so that the tokens of two texts joined at the end of a token are the tokens of the one and then of
the other. Placeholders are numbered from zero on.
-/

namespace Compliance.Sql

inductive Token
  | word (s : String)
  | name (s : String)
  | number (s : String)
  | text (s : String)
  | placeholder (index : Nat)
  | symbol (s : String)
  deriving DecidableEq, Repr, Inhabited

namespace Token

/-- What is being read; the characters so far are kept last first. -/
inductive Mode
  | between
  | word (chars : List Char)
  | number (chars : List Char)
  | name (mark : Char) (chars : List Char)
  /-- After a quote inside a name: a second one makes it part of the name. -/
  | nameEnd (mark : Char) (chars : List Char)
  | text (chars : List Char)
  | textEnd (chars : List Char)
  | symbol (c : Char)
  | lineComment
  | blockComment (depth : Nat) (last : Char)
  deriving DecidableEq, Repr, Inhabited

structure Reader where
  tokens : List Token
  placeholders : Nat
  mode : Mode
  deriving Repr, Inhabited

def isWordStart (c : Char) : Bool := Text.isAlphabetic c || c = '_' || c = '#' || c = '@'

def isWordPart (c : Char) : Bool := isWordStart c || Number.isDigit c || c = '$'

def doubleSymbols : List (Char × Char) :=
  [('<', '='), ('<', '>'), ('>', '='), ('!', '='), ('|', '|'), (':', ':'), ('=', '='), ('=', '>'),
    ('-', '>'), ('<', '<'), ('>', '>')]

namespace Reader

def start : Reader := ⟨[], 0, .between⟩

def emit (r : Reader) (token : Token) : Reader :=
  { r with tokens := token :: r.tokens, mode := .between }

def enter (r : Reader) (mode : Mode) : Reader := { r with mode }

def begin (r : Reader) (c : Char) : Reader :=
  if Text.isBlank c then r.enter .between
  else if c = '"' ∨ c = '`' then r.enter (.name c [])
  else if c = '\'' then r.enter (.text [])
  else if c = '?' then { r.emit (.placeholder r.placeholders) with placeholders := r.placeholders + 1 }
  else if Number.isDigit c then r.enter (.number [c])
  else if isWordStart c then r.enter (.word [c])
  else r.enter (.symbol c)

def string (chars : List Char) : String := String.ofList chars.reverse

def step (r : Reader) (c : Char) : Reader :=
  match r.mode with
  | .between => r.begin c
  | .word chars =>
    if isWordPart c then r.enter (.word (c :: chars)) else (r.emit (.word (string chars))).begin c
  | .number chars =>
    if Number.isDigit c ∨ (c = '.' ∧ '.' ∉ chars) then r.enter (.number (c :: chars))
    else (r.emit (.number (string chars))).begin c
  | .name mark chars =>
    if c = mark then r.enter (.nameEnd mark chars) else r.enter (.name mark (c :: chars))
  | .nameEnd mark chars =>
    if c = mark then r.enter (.name mark (c :: chars)) else (r.emit (.name (string chars))).begin c
  | .text chars => if c = '\'' then r.enter (.textEnd chars) else r.enter (.text (c :: chars))
  | .textEnd chars =>
    if c = '\'' then r.enter (.text (c :: chars)) else (r.emit (.text (string chars))).begin c
  | .symbol first =>
    if first = '-' ∧ c = '-' then r.enter .lineComment
    else if first = '/' ∧ c = '*' then r.enter (.blockComment 1 ' ')
    else if first = '.' ∧ Number.isDigit c then r.enter (.number [c, '.'])
    else if doubleSymbols.contains (first, c) then r.emit (.symbol (string [c, first]))
    else (r.emit (.symbol (string [first]))).begin c
  | .lineComment => if c = '\n' then r.enter .between else r
  | .blockComment depth last =>
    if last = '*' ∧ c = '/' then r.enter (if depth ≤ 1 then .between else .blockComment (depth - 1) ' ')
    else if last = '/' ∧ c = '*' then r.enter (.blockComment (depth + 1) ' ')
    else r.enter (.blockComment depth c)

inductive Unfinished
  | name | text | comment
  deriving DecidableEq, Repr, Inhabited

def finish (r : Reader) : Except Unfinished (List Token) :=
  match r.mode with
  | .between | .lineComment => .ok r.tokens.reverse
  | .word chars => .ok (Token.word (string chars) :: r.tokens).reverse
  | .number chars => .ok (Token.number (string chars) :: r.tokens).reverse
  | .nameEnd _ chars => .ok (Token.name (string chars) :: r.tokens).reverse
  | .textEnd chars => .ok (Token.text (string chars) :: r.tokens).reverse
  | .symbol c => .ok (Token.symbol (string [c]) :: r.tokens).reverse
  | .name .. => .error .name
  | .text _ => .error .text
  | .blockComment .. => .error .comment

end Reader

def read (text : List Char) : Except Reader.Unfinished (List Token) :=
  (text.foldl Reader.step .start).finish

def describe : Token → String
  | word s => s
  | name s => "\"" ++ s ++ "\""
  | number s => s
  | text s => "'" ++ s ++ "'"
  | placeholder _ => "?"
  | symbol s => s

def isKeyword (keyword : String) : Token → Bool
  | word s => s.toList.map Char.toUpper = keyword.toList
  | _ => false

end Token

end Compliance.Sql
