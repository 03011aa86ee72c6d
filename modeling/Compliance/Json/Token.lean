import Compliance.Json.Basic

/-!
The tokens of a JSON text.

The text is read one character at a time. What is no JSON ends the tokens with `broken`, so that a
reader still sees all that stands before the fault.
-/

namespace Compliance.Json

inductive Token
  | openBrace | closeBrace | openBracket | closeBracket | colon | comma
  | null
  | bool (b : Bool)
  | number (literal : List Char)
  | text (s : String)
  | broken
  deriving DecidableEq, Repr, Inhabited

namespace Token

inductive Mode
  | between
  | number (letters : List Char)
  | word (letters : List Char)
  | text (letters : List Char)
  | escape (letters : List Char)
  /-- Inside a four-digit escape: the high half of a pair before it, the digits read, and their value. -/
  | unit (letters : List Char) (high : Option Nat) (count value : Nat)
  /-- After the high half of a pair, which needs a second escape. -/
  | pair (letters : List Char) (high : Nat)
  | pairEscape (letters : List Char) (high : Nat)
  | failed
  deriving Repr, Inhabited

def isSpace (c : Char) : Bool := c = ' ' || c = '\n' || c = '\t' || c = '\r'

def isNumberLetter (c : Char) : Bool :=
  Number.isDigit c || c = '-' || c = '+' || c = '.' || c = 'e' || c = 'E'

def start (c : Char) : List Token × Mode :=
  if isSpace c then ([], .between)
  else if c = '{' then ([.openBrace], .between)
  else if c = '}' then ([.closeBrace], .between)
  else if c = '[' then ([.openBracket], .between)
  else if c = ']' then ([.closeBracket], .between)
  else if c = ':' then ([.colon], .between)
  else if c = ',' then ([.comma], .between)
  else if c = '"' then ([], .text [])
  else if Number.isDigit c || c = '-' then ([], .number [c])
  else if c.isAlpha then ([], .word [c])
  else ([.broken], .failed)

def isNumber (literal : List Char) : Bool :=
  let unsigned := match literal with
    | '-' :: rest => rest
    | rest => rest
  let (whole, rest) := unsigned.span Number.isDigit
  let wholeOk := match whole with
    | [] => false
    | [_] => true
    | c :: _ => c ≠ '0'
  let (fractionOk, rest) := match rest with
    | '.' :: more => (!(more.takeWhile Number.isDigit).isEmpty, more.dropWhile Number.isDigit)
    | _ => (true, rest)
  let exponentOk := match rest with
    | [] => true
    | c :: digits => (c = 'e' || c = 'E') && (Number.exponent? digits).isSome
  wholeOk && fractionOk && exponentOk

def ofNumber (letters : List Char) : Token :=
  if isNumber letters.reverse then .number letters.reverse else .broken

def ofWord (letters : List Char) : Token :=
  match String.ofList letters.reverse with
  | "null" => .null
  | "true" => .bool true
  | "false" => .bool false
  | _ => .broken

def hexValue? (c : Char) : Option Nat :=
  if '0' ≤ c ∧ c ≤ '9' then some (c.toNat - '0'.toNat)
  else if 'a' ≤ c ∧ c ≤ 'f' then some (c.toNat - 'a'.toNat + 10)
  else if 'A' ≤ c ∧ c ≤ 'F' then some (c.toNat - 'A'.toNat + 10)
  else none

def unitMode (letters : List Char) (high : Option Nat) (value : Nat) : Mode :=
  let isHigh := 0xD800 ≤ value && value < 0xDC00
  let isLow := 0xDC00 ≤ value && value < 0xE000
  match high with
  | none =>
    if isHigh then .pair letters value else if isLow then .failed
    else .text (Char.ofNat value :: letters)
  | some h =>
    if isLow then .text (Char.ofNat (0x10000 + (h - 0xD800) * 0x400 + (value - 0xDC00)) :: letters)
    else .failed

def escaped? (c : Char) : Option Char :=
  if c = '"' ∨ c = '\\' ∨ c = '/' then some c
  else if c = 'b' then some (Char.ofNat 8)
  else if c = 'f' then some (Char.ofNat 12)
  else if c = 'n' then some '\n'
  else if c = 'r' then some '\r'
  else if c = 't' then some '\t'
  else none

def endBefore (token : Token) (c : Char) : List Token × Mode :=
  if token = .broken then ([.broken], .failed) else (token :: (start c).1, (start c).2)

def step : Mode → Char → List Token × Mode
  | .between, c => start c
  | .number letters, c =>
    if isNumberLetter c then ([], .number (c :: letters)) else endBefore (ofNumber letters) c
  | .word letters, c => if c.isAlpha then ([], .word (c :: letters)) else endBefore (ofWord letters) c
  | .text letters, c =>
    if c = '"' then ([.text (String.ofList letters.reverse)], .between)
    else if c = '\\' then ([], .escape letters)
    else if c.toNat < 0x20 then ([.broken], .failed)
    else ([], .text (c :: letters))
  | .escape letters, c =>
    if c = 'u' then ([], .unit letters none 0 0)
    else match escaped? c with
      | some e => ([], .text (e :: letters))
      | none => ([.broken], .failed)
  | .unit letters high count value, c =>
    match hexValue? c with
    | none => ([.broken], .failed)
    | some d =>
      if count < 3 then ([], .unit letters high (count + 1) (16 * value + d))
      else match unitMode letters high (16 * value + d) with
        | .failed => ([.broken], .failed)
        | mode => ([], mode)
  | .pair letters high, c => if c = '\\' then ([], .pairEscape letters high) else ([.broken], .failed)
  | .pairEscape letters high, c =>
    if c = 'u' then ([], .unit letters (some high) 0 0) else ([.broken], .failed)
  | .failed, _ => ([], .failed)

def finish : Mode → List Token
  | .between | .failed => []
  | .number letters => [ofNumber letters]
  | .word letters => [ofWord letters]
  | _ => [.broken]

def readFrom : Mode → List Char → List Token
  | mode, [] => finish mode
  | mode, c :: rest => (step mode c).1 ++ readFrom (step mode c).2 rest

def read (text : String) : List Token := readFrom .between text.toList

end Token

end Compliance.Json
