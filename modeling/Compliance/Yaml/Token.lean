import Compliance.Yaml.Scalar

/-!
The tokens of a YAML text.

A key shows only by the colon after it, so each level of nesting keeps the place where a key may
have started (`KeyPlace`), and the tokens for it are put in there once the colon comes. Indentation
gives the tokens that open and close the blocks.
-/

namespace Compliance.Yaml

inductive Token
  | version (major minor : Nat)
  | tagHandle (handle expansion : String)
  | documentStart
  | documentEnd
  | openBlockSequence
  | openBlockMapping
  | closeBlock
  | openFlowSequence
  | closeFlowSequence
  | openFlowMapping
  | closeFlowMapping
  | blockEntry
  | flowEntry
  | key
  | value
  | reference (name : String)
  | anchor (name : String)
  | tag (handle suffix : String)
  | scalar (style : Style) (text : String)
  deriving DecidableEq, Repr, Inhabited

namespace Token

structure KeyPlace where
  position : Nat
  required : Bool
  line : Nat
  column : Nat
  index : Nat
  deriving Repr, Inhabited

/-- The state of reading; the tokens are kept last first. -/
structure Scanner where
  cursor : Cursor
  tokens : List Token
  indents : List Nat
  /-- The possible key of each level of nesting, innermost first. -/
  keys : List (Option KeyPlace)
  keyAllowed : Bool
  deriving Repr, Inhabited

namespace Scanner

def inFlow (s : Scanner) : Bool := 1 < s.keys.length

def floor (s : Scanner) : Nat := (s.indents.head?.map (· + 1)).getD 0

def emit (s : Scanner) (token : Token) : Scanner := { s with tokens := token :: s.tokens }

def emitOver (s : Scanner) (token : Token) (n : Nat) : Scanner :=
  { s with tokens := token :: s.tokens, cursor := s.cursor.advance n }

def fail {α : Type} (s : Scanner) (what : String) : Except Fault α :=
  .error (.unexpected what s.cursor.line)

def closeBlocks (s : Scanner) (column : Nat) : Scanner :=
  if s.inFlow then s
  else
    let closed := s.indents.takeWhile (column < ·)
    { s with
      indents := s.indents.drop closed.length
      tokens := closed.map (fun _ => Token.closeBlock) ++ s.tokens }

def closeAllBlocks (s : Scanner) : Scanner :=
  if s.inFlow then s
  else { s with indents := [], tokens := s.indents.map (fun _ => Token.closeBlock) ++ s.tokens }

/-- Puts tokens in where `position` tokens stand before them. -/
def insert (s : Scanner) (position : Nat) (new : List Token) : Scanner :=
  let later := s.tokens.length - position
  { s with tokens := s.tokens.take later ++ new.reverse ++ s.tokens.drop later }

def opensBlock (s : Scanner) (column : Nat) : Bool := !s.inFlow && s.floor ≤ column

def openBlock (s : Scanner) (token : Token) : Scanner :=
  if s.opensBlock s.cursor.column then { s.emit token with indents := s.cursor.column :: s.indents }
  else s

def dropKey (s : Scanner) : Except Fault Scanner :=
  match s.keys with
  | some place :: outer =>
    if place.required then .error (.unfinished "key" place.line)
    else .ok { s with keys := none :: outer }
  | _ => .ok s

def saveKey (s : Scanner) : Except Fault Scanner := do
  if !s.keyAllowed then return s
  let s ← s.dropKey
  let place : KeyPlace := {
    position := s.tokens.length
    required := !s.inFlow && s.indents.head? = some s.cursor.column
    line := s.cursor.line
    column := s.cursor.column
    index := s.cursor.index }
  return { s with keys := some place :: s.keys.drop 1 }

def maxKeyLength : Nat := 1024

def isStale (s : Scanner) (place : KeyPlace) : Bool :=
  place.line < s.cursor.line || place.index + maxKeyLength < s.cursor.index

/-- Gives up the keys that can be none any more: a key stands in one line. -/
def dropStaleKeys (s : Scanner) : Except Fault Scanner := do
  let keys ← s.keys.mapM fun
    | some place =>
      if !s.isStale place then pure (some place)
      else if place.required then throw (Fault.unfinished "key" place.line)
      else pure none
    | none => pure none
  return { s with keys }

def skipGap (s : Scanner) : Nat → Scanner
  | 0 => s
  | fuel + 1 =>
    let tabs := s.inFlow || !s.keyAllowed
    let cursor := (s.cursor.skipWhile fun c => c = ' ' || (tabs && c = '\t')).skipComment
    match cursor.rest with
    | c :: _ =>
      if isBreak c
        then skipGap { s with cursor := cursor.next, keyAllowed := s.keyAllowed || !s.inFlow } fuel
      else { s with cursor }
    | [] => { s with cursor }

def documentMark (s : Scanner) (token : Token) : Except Fault Scanner := do
  let s ← s.closeAllBlocks.dropKey
  return { s with keyAllowed := false }.emitOver token 3

def openFlow (s : Scanner) (token : Token) : Except Fault Scanner := do
  let s ← s.saveKey
  return { s with keys := none :: s.keys, keyAllowed := true }.emitOver token 1

def closeFlow (s : Scanner) (token : Token) : Except Fault Scanner := do
  let s ← s.dropKey
  return { s with keys := if s.inFlow then s.keys.drop 1 else s.keys, keyAllowed := false }.emitOver
    token 1

def flowEntry (s : Scanner) : Except Fault Scanner := do
  return { (← s.dropKey) with keyAllowed := true }.emitOver .flowEntry 1

def blockEntry (s : Scanner) : Except Fault Scanner := do
  if !s.inFlow && !s.keyAllowed then s.fail "list entry"
  let s ← (s.openBlock .openBlockSequence).dropKey
  return { s with keyAllowed := true }.emitOver .blockEntry 1

def markedKey (s : Scanner) : Except Fault Scanner := do
  if !s.inFlow && !s.keyAllowed then s.fail "key"
  let s ← (s.openBlock .openBlockMapping).dropKey
  return { s with keyAllowed := !s.inFlow }.emitOver .key 1

def value (s : Scanner) : Except Fault Scanner := do
  match s.keys with
  | some place :: outer =>
    let opens := s.opensBlock place.column
    let s := s.insert place.position (if opens then [.openBlockMapping, .key] else [.key])
    let indents := if opens then place.column :: s.indents else s.indents
    return { s with keys := none :: outer, indents, keyAllowed := false }.emitOver .value 1
  | _ =>
    if !s.inFlow && !s.keyAllowed then s.fail "value"
    let s := s.openBlock .openBlockMapping
    return { s with keyAllowed := !s.inFlow }.emitOver .value 1

def readName (s : Scanner) : Except Fault (String × Cursor) :=
  let (name, cursor) := s.cursor.next.span isWordLetter
  let ends := startsGap cursor.rest || "?:,]\x7d%@`".toList.any (cursor.rest.head? = some ·)
  if name = [] ∨ !ends then s.fail "name" else .ok (String.ofList name, cursor)

def anchorOrAlias (s : Scanner) (token : String → Token) : Except Fault Scanner := do
  let s ← s.saveKey
  let (name, cursor) ← s.readName
  return { s.emit (token name) with cursor, keyAllowed := false }

def isUriLetter (c : Char) : Bool := isWordLetter c || ";/?:@&=+$.!~*'()%".toList.contains c

/-- The bytes of a URI, in which an escape by number stands for one byte. -/
def uriBytes : List Char → Option (List UInt8)
  | [] => some []
  | '%' :: high :: low :: rest => do
    let high ← Json.Token.hexValue? high
    let low ← Json.Token.hexValue? low
    return UInt8.ofNat (16 * high + low) :: (← uriBytes rest)
  | c :: rest => if c = '%' then none else (uriBytes rest).map (UInt8.ofNat c.toNat :: ·)

def decodeUri (letters : List Char) : Option String := do String.fromUTF8? ⟨(← uriBytes letters).toArray⟩

def readUri (s : Scanner) (cursor : Cursor) (test : Char → Bool) : Except Fault (String × Cursor) := do
  let (letters, cursor) := cursor.span test
  match decodeUri letters with
  | some text => return (text, cursor)
  | none => s.fail "escape"

/-- The handle of a tag: an exclamation mark, or a word between two. -/
def handle (cursor : Cursor) : List Char × Cursor :=
  let (word, after) := cursor.next.span isWordLetter
  match after.rest with
  | '!' :: _ => ('!' :: word ++ ['!'], after.next)
  | _ => ('!' :: word, after)

def readTag (s : Scanner) : Except Fault (Token × Cursor) := do
  match s.cursor.rest with
  | '!' :: '<' :: _ =>
    let (uri, cursor) ← s.readUri (s.cursor.advance 2) fun c =>
      isUriLetter c || c = ',' || c = '[' || c = ']'
    if uri = "" || cursor.rest.head? ≠ some '>' then s.fail "tag"
    return (.tag "" uri, cursor.next)
  | _ =>
    let (handle, cursor) := handle s.cursor
    let named := 1 < handle.length && handle.getLast? = some '!'
    let (suffix, cursor) ← s.readUri cursor isUriLetter
    if named then
      if suffix = "" then s.fail "tag"
      return (.tag (String.ofList handle) suffix, cursor)
    let suffix := String.ofList (handle.drop 1) ++ suffix
    return (if suffix = "" then .tag "" "!" else .tag "!" suffix, cursor)

def tag (s : Scanner) : Except Fault Scanner := do
  let s ← s.saveKey
  let (token, cursor) ← s.readTag
  if !startsGap cursor.rest && !(s.inFlow && cursor.rest.head? = some ',') then s.fail "tag"
  return { s.emit token with cursor, keyAllowed := false }

def versionNumber (cursor : Cursor) : Option (Nat × Cursor) :=
  let (digits, cursor) := cursor.span Number.isDigit
  if digits.length ≤ 9 then (Number.natOfDigits? digits).map (·, cursor) else none

def readVersion (s : Scanner) (cursor : Cursor) : Except Fault (Token × Cursor) :=
  match versionNumber (cursor.skipWhile isSpace) with
  | some (major, cursor) =>
    match cursor.rest, versionNumber cursor.next with
    | '.' :: _, some (minor, cursor) => .ok (.version major minor, cursor)
    | _, _ => s.fail "version"
  | none => s.fail "version"

def readTagHandle (s : Scanner) (cursor : Cursor) : Except Fault (Token × Cursor) := do
  let cursor := cursor.skipWhile isSpace
  if cursor.rest.head? ≠ some '!' then s.fail "handle"
  let (handle, cursor) := handle cursor
  if handle ≠ ['!'] && handle.getLast? ≠ some '!' then s.fail "handle"
  if !(cursor.rest.head?.any isSpace) then s.fail "handle"
  let (expansion, cursor) ← s.readUri (cursor.skipWhile isSpace) fun c =>
    isUriLetter c || c = ',' || c = '[' || c = ']'
  if expansion = "" || !startsGap cursor.rest then s.fail "handle"
  return (.tagHandle (String.ofList handle) expansion, cursor)

def directive (s : Scanner) : Except Fault Scanner := do
  let s ← s.closeAllBlocks.dropKey
  let (name, cursor) := s.cursor.next.span isWordLetter
  if name = [] || !startsGap cursor.rest then s.fail "directive"
  let (token, cursor) ←
    match String.ofList name with
    | "YAML" => s.readVersion cursor
    | "TAG" => s.readTagHandle cursor
    | name => throw (.unknown "directive" name)
  return { s.emit token with cursor := ← cursor.endLine, keyAllowed := false }

def blockScalar (s : Scanner) (folded : Bool) : Except Fault Scanner := do
  let s ← s.dropKey
  let scalar ← Block.read folded s.indents.head? s.cursor
  return { s.emit (.scalar (if folded then .folded else .literal) scalar.text) with
    cursor := scalar.after, keyAllowed := true }

def quotedScalar (s : Scanner) (double : Bool) : Except Fault Scanner := do
  let s ← s.saveKey
  let scalar ← Quoted.read double s.cursor
  return { s.emit (.scalar (if double then .doubleQuoted else .singleQuoted) scalar.text) with
    cursor := scalar.after, keyAllowed := false }

def plainScalar (s : Scanner) : Except Fault Scanner := do
  let s ← s.saveKey
  let scalar ← Plain.read s.inFlow s.floor s.cursor
  return { s.emit (.scalar .plain scalar.text) with cursor := scalar.after, keyAllowed := scalar.broken }

def isMark (c : Char) : Bool := "-?:,[]\x7b\x7d#&*!|>'\"%@`".toList.contains c

def fetch (s : Scanner) (c : Char) (rest : List Char) : Except Fault Scanner :=
  let atMark := s.inFlow || startsGap rest
  if s.cursor.column = 0 && c = '%' then s.directive
  else if s.cursor.column = 0 && startsDocumentMark (c :: rest) then
    s.documentMark (if c = '-' then .documentStart else .documentEnd)
  else if c = '[' then s.openFlow .openFlowSequence
  else if c = '{' then s.openFlow .openFlowMapping
  else if c = ']' then s.closeFlow .closeFlowSequence
  else if c = '}' then s.closeFlow .closeFlowMapping
  else if c = ',' then s.flowEntry
  else if c = '-' && startsGap rest then s.blockEntry
  else if c = '?' && atMark then s.markedKey
  else if c = ':' && atMark then s.value
  else if c = '*' then s.anchorOrAlias .reference
  else if c = '&' then s.anchorOrAlias .anchor
  else if c = '!' then s.tag
  else if c = '|' && !s.inFlow then s.blockScalar false
  else if c = '>' && !s.inFlow then s.blockScalar true
  else if c = '\'' then s.quotedScalar false
  else if c = '"' then s.quotedScalar true
  else if !isGap c && !isMark c || c = '-' || (!s.inFlow && (c = '?' || c = ':')) then s.plainScalar
  else s.fail "character"

def finish (s : Scanner) : Except Fault (List Token) := do
  let s ← s.closeAllBlocks.dropKey
  return s.tokens.reverse

def scan : Nat → Scanner → Except Fault (List Token)
  | 0, s => s.finish
  | fuel + 1, s => do
    let s ← (s.skipGap (s.cursor.rest.length + 1)).dropStaleKeys
    match s.cursor.rest with
    | [] => s.finish
    | c :: rest => scan fuel (← (s.closeBlocks s.cursor.column).fetch c rest)

def start (text : List Char) : Scanner :=
  let cursor := Cursor.ofText text
  { cursor := if text.head? = some byteOrderMark then cursor.next else cursor
    tokens := [], indents := [], keys := [none], keyAllowed := true }

end Scanner

def read (text : String) : Except Fault (List Token) :=
  match text.toList.find? (!isAllowed ·) with
  | some c => .error (.character c.toNat)
  | none =>
    let s := Scanner.start text.toList
    s.scan (s.cursor.rest.length + 1)

end Token

end Compliance.Yaml
