import Compliance.Json.Token

/-!
A JSON text as far as it could be read.

A draft keeps the fields of an object in the order of the text, repeated keys included, and marks
the place where the text stops being JSON. `ofText` never fails; a draft without a mark gives a
value (`toJson?`).
-/

namespace Compliance.Json

inductive Draft
  | null
  | bool (b : Bool)
  | number (literal : List Char) (value : Option JsonNumber)
  | text (s : String)
  | array (items : List Draft)
  | object (fields : List (String × Draft))
  | broken
  deriving Repr, Inhabited

/-- A whole number that fits 64 bits stays whole; minus zero and all others are doubles. -/
def numberValue? (literal : List Char) : Option JsonNumber :=
  let whole := literal.all fun c => Number.isDigit c || c = '-'
  let exact : Option Int :=
    if !whole then none
    else match literal with
      | '-' :: digits => (Number.int64? literal).filter fun _ => Number.digitsValue digits ≠ 0
      | _ => (Number.nat64? literal).map Int.ofNat
  match exact with
  | some n => some (.int n)
  | none =>
    match Number.double? literal with
    | some x => if x.isFinite then some (.real x) else none
    | none => none

namespace Draft

inductive Frame
  | array (items : List Draft)
  | object (fields : List (String × Draft)) (key : String)
  deriving Repr, Inhabited

inductive Expected
  | value | itemOrEnd | commaOrEnd | keyOrEnd | key | colon
  deriving DecidableEq, Repr, Inhabited

inductive State
  | reading (frames : List Frame) (expected : Expected)
  | done (value : Draft)
  | failed (value : Draft)
  deriving Repr, Inhabited

def maxDepth : Nat := 127

def put (value : Draft) : List Frame → State
  | [] => .done value
  | .array items :: outer => .reading (.array (value :: items) :: outer) .commaOrEnd
  | .object fields key :: outer => .reading (.object ((key, value) :: fields) "" :: outer) .commaOrEnd

def abandon : Draft → List Frame → Draft
  | value, [] => value
  | value, .array items :: outer => abandon (.array (value :: items).reverse) outer
  | value, .object fields key :: outer => abandon (.object ((key, value) :: fields).reverse) outer

def State.fail (frames : List Frame) : State := .failed (abandon .broken frames)

def openFrame (frame : Frame) (expected : Expected) (frames : List Frame) : State :=
  if frames.length < maxDepth then .reading (frame :: frames) expected else .fail frames

def close : List Frame → State
  | .array items :: outer => put (.array items.reverse) outer
  | .object fields _ :: outer => put (.object fields.reverse) outer
  | [] => .fail []

def startValue (frames : List Frame) : Token → State
  | .null => put .null frames
  | .bool b => put (.bool b) frames
  | .number literal => put (.number literal (numberValue? literal)) frames
  | .text s => put (.text s) frames
  | .openBracket => openFrame (.array []) .itemOrEnd frames
  | .openBrace => openFrame (.object [] "") .keyOrEnd frames
  | _ => .fail frames

def isArray : List Frame → Bool
  | .array _ :: _ => true
  | _ => false

def step : State → Token → State
  | .reading frames .value, token => startValue frames token
  | .reading frames .itemOrEnd, token =>
    if token = .closeBracket then close frames else startValue frames token
  | .reading frames .commaOrEnd, token =>
    if token = .comma then .reading frames (if isArray frames then .value else .key)
    else if token = (if isArray frames then .closeBracket else .closeBrace) then close frames
    else .fail frames
  | .reading (.object fields key :: outer) expected, token =>
    match expected, token with
    | .keyOrEnd, .closeBrace => close (.object fields key :: outer)
    | .keyOrEnd, .text s | .key, .text s => .reading (.object fields s :: outer) .colon
    | .colon, .colon => .reading (.object fields key :: outer) .value
    | _, _ => .fail (.object fields key :: outer)
  | .reading frames _, _ => .fail frames
  | .done value, _ => .failed value
  | .failed value, _ => .failed value

structure Reading where
  value : Draft
  complete : Bool
  deriving Repr, Inhabited

def finish : State → Reading
  | .done value => ⟨value, true⟩
  | .failed value => ⟨value, false⟩
  | .reading frames _ => ⟨abandon .broken frames, false⟩

def ofTokens (tokens : List Token) : Reading := finish (tokens.foldl step (.reading [] .value))

def ofText (text : String) : Reading := ofTokens (Token.read text)

mutual

def toJson? : Draft → Option Json
  | .null => some .null
  | .bool b => some (.bool b)
  | .number _ value => value.map .number
  | .text s => some (.text s)
  | .array items => (itemsToJson? items).map .array
  | .object fields => (fieldsToJson? fields).map ofFields
  | .broken => none

def itemsToJson? : List Draft → Option (List Json)
  | [] => some []
  | item :: rest => do return (← toJson? item) :: (← itemsToJson? rest)

def fieldsToJson? : List (String × Draft) → Option (List (String × Json))
  | [] => some []
  | (key, value) :: rest => do return (key, ← toJson? value) :: (← fieldsToJson? rest)

end

end Draft

def parse? (text : String) : Option Json :=
  let reading := Draft.ofText text
  if reading.complete then reading.value.toJson? else none

end Compliance.Json
