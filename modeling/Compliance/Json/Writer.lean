import Compliance.Json.Basic
import Compliance.Number.Notation
import Compliance.Text.Quoted

/-!
Writing JSON, on one line or one field a line with an indent of two spaces.

Only quotes, backslashes and controls are escaped. Doubles that are no numbers are written as null.
-/

namespace Compliance.Json

def escapedChar (c : Char) : List Char :=
  if c = '"' then ['\\', '"']
  else if c = '\\' then ['\\', '\\']
  else if c.toNat = 8 then ['\\', 'b']
  else if c.toNat = 12 then ['\\', 'f']
  else if c = '\n' then ['\\', 'n']
  else if c = '\r' then ['\\', 'r']
  else if c = '\t' then ['\\', 't']
  else if c.toNat < 0x20 then
    ['\\', 'u', '0', '0'] ++ List.replicate (2 - (Text.hexDigits c.toNat).length) '0' ++
      Text.hexDigits c.toNat
  else [c]

def writeText (s : String) : List Char := '"' :: s.toList.flatMap escapedChar ++ ['"']

def intChars : Int → List Char
  | .ofNat n => Nat.toDigits 10 n
  | .negSucc n => '-' :: Nat.toDigits 10 (n + 1)

def writeNumber : JsonNumber → List Char
  | .int n => intChars n
  | .real x => (Number.Notation.report.write x).toList

mutual

def compactChars : Json → List Char
  | .null => "null".toList
  | .bool b => (if b then "true" else "false").toList
  | .number n => writeNumber n
  | .text s => writeText s
  | .array items => '[' :: compactItems items ++ [']']
  | .object fields => '{' :: compactFields fields ++ ['}']

def compactItems : List Json → List Char
  | [] => []
  | [item] => compactChars item
  | item :: rest => compactChars item ++ ',' :: compactItems rest

def compactFields : List (String × Json) → List Char
  | [] => []
  | [(key, value)] => writeText key ++ ':' :: compactChars value
  | (key, value) :: rest => writeText key ++ ':' :: compactChars value ++ ',' :: compactFields rest

end

def compact (value : Json) : String := String.ofList value.compactChars

def newLine (depth : Nat) : List Char := '\n' :: List.replicate (2 * depth) ' '

mutual

def prettyChars (depth : Nat) : Json → List Char
  | .array [] => ['[', ']']
  | .array items => '[' :: prettyItems (depth + 1) items ++ newLine depth ++ [']']
  | .object [] => ['{', '}']
  | .object fields => '{' :: prettyFields (depth + 1) fields ++ newLine depth ++ ['}']
  | .null => "null".toList
  | .bool b => (if b then "true" else "false").toList
  | .number n => writeNumber n
  | .text s => writeText s

def prettyItems (depth : Nat) : List Json → List Char
  | [] => []
  | [item] => newLine depth ++ prettyChars depth item
  | item :: rest => newLine depth ++ prettyChars depth item ++ ',' :: prettyItems depth rest

def prettyFields (depth : Nat) : List (String × Json) → List Char
  | [] => []
  | [(key, value)] => newLine depth ++ writeText key ++ [':', ' '] ++ prettyChars depth value
  | (key, value) :: rest =>
    newLine depth ++ writeText key ++ [':', ' '] ++ prettyChars depth value ++
      ',' :: prettyFields depth rest

end

def pretty (value : Json) : String := String.ofList (value.prettyChars 0)

end Compliance.Json
