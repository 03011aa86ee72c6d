import Compliance.Json.Basic
import Compliance.Yaml.Node
import Compliance.Yaml.Plain

/-!
The value of a YAML document.

A value has its aliases replaced by what they stand for and its plain scalars read. Keys may be any
values, and a key may come twice; `toJson?` gives the JSON value where all keys are text, the last
one of a repeated key counting.
-/

namespace Compliance.Yaml

inductive Value
  | null
  | bool (b : Bool)
  | int (n : Int)
  | real (x : Number.Double)
  | text (s : String)
  | list (items : List Value)
  | mapping (entries : List (Value × Value))
  deriving Repr, Inhabited

namespace Value

def maxDepth : Nat := 128

def maxAliases : Nat := 100

def isCustomTag (tag : String) : Bool := tag.toList.head? = some '!'

def coreTag (name : String) : String := "tag:yaml.org,2002:" ++ name

/-- A whole number of more than 64 bits has no value, though it reads as one. -/
def ofInteger? (text : List Char) : Option (Except Fault Value) :=
  match Plain.integer? text with
  | some n =>
    if Plain.fits64 n then some (.ok (int n))
    else if Plain.fits128 n then some (.error (.wrongScalar "a number of 64 bits" (String.ofList text)))
    else none
  | none => none

def ofPlain (text : String) : Except Fault Value :=
  if text = "" || Plain.isNull text then .ok null
  else match Plain.bool? text, ofInteger? text.toList with
    | some b, _ => .ok (bool b)
    | none, some value => value
    | none, none =>
      if Plain.hasLeadingZero text.toList then .ok (Value.text text)
      else match Plain.float? text.toList with
        | some x => .ok (real x)
        | none => .ok (Value.text text)

def ofTagged (tag text : String) : Except Fault Value :=
  let wrong (wanted : String) : Except Fault Value := .error (.wrongScalar wanted text)
  if isCustomTag tag then .error (.customTag tag)
  else if tag = coreTag "bool" then
    match Plain.bool? text with
    | some b => .ok (bool b)
    | none => wrong "a truth value"
  else if tag = coreTag "int" then (ofInteger? text.toList).getD (wrong "a whole number")
  else if tag = coreTag "float" then
    match Plain.float? text.toList with
    | some x => .ok (real x)
    | none => wrong "a number"
  else if tag = coreTag "null" then if Plain.isNull text then .ok null else wrong "null"
  else .ok (Value.text text)

def ofScalar (tag : Option String) (style : Style) (text : String) : Except Fault Value :=
  match tag with
  | some tag => ofTagged tag text
  | none => if style = .plain then ofPlain text else .ok (Value.text text)

def checkTag (tag : Option String) : Except Fault Unit :=
  match tag with
  | some tag => if isCustomTag tag then .error (.customTag tag) else .ok ()
  | none => .ok ()

/-- Reading a value counts the aliases that may still be replaced. -/
abbrev Read := StateT Nat (Except Fault)

def resolve (anchors : List (Nat × Node)) : Node → Read Node
  | .reference id => do
    let left ← get
    if left = 0 then throw Fault.tooManyAliases
    set (left - 1)
    match anchors.lookup id with
    | some node => return node
    | none => throw (Fault.unknown "anchor" (toString id))
  | node => return node

def ofNode (anchors : List (Nat × Node)) : Nat → Node → Read Value
  | depth, node => do
    match ← resolve anchors node, depth with
    | .scalar properties style content, _ => ofScalar properties.tag style content
    | .sequence properties items, depth + 1 =>
      checkTag properties.tag
      return list (← items.mapM (ofNode anchors depth))
    | .mapping properties entries, depth + 1 =>
      checkTag properties.tag
      return mapping (← entries.mapM fun (key, value) => do
        return (← ofNode anchors depth key, ← ofNode anchors depth value))
    | _, _ => throw Fault.tooDeep

def ofReal (x : Number.Double) : Json := if x.isFinite then .real x else .null

mutual

def toJson? : Value → Option Json
  | null => some .null
  | bool b => some (.bool b)
  | int n => some (.int n)
  | real x => some (ofReal x)
  | text s => some (.text s)
  | list items => (itemsToJson? items).map .array
  | mapping entries => (entriesToJson? entries).map Json.ofFields

def itemsToJson? : List Value → Option (List Json)
  | [] => some []
  | item :: rest => do return (← toJson? item) :: (← itemsToJson? rest)

def entriesToJson? : List (Value × Value) → Option (List (String × Json))
  | [] => some []
  | (text key, value) :: rest => do return (key, ← toJson? value) :: (← entriesToJson? rest)
  | _ :: _ => none

end

end Value

namespace Document

def anchors (document : Document) : List (Nat × Node) :=
  ((document.root.map Node.anchored).getD []).reverse

def aliasLimit (document : Document) : Nat := Value.maxAliases * (document.root.map Node.size).getD 0

def value (document : Document) : Except Fault Value :=
  match document.root with
  | none => .error .notOneDocument
  | some node => (Value.ofNode document.anchors Value.maxDepth node).run' document.aliasLimit

end Document

end Compliance.Yaml
