import Compliance.Json.Basic
import Compliance.Number.Notation
import Compliance.Text.Quoted
import Compliance.Time.Timestamp

/-!
Reading typed values out of JSON values.

A record is an object or a list of its fields in their order. `readFields` visits the fields of an
object as they come; the first one that does not fit is the error, and a field that was left out is
found missing only afterwards.
-/

namespace Compliance

inductive DecodeError
  | missingField (name : String)
  | repeatedField (name : String)
  | unknownVariant (given : String) (known : List String)
  | wrongType (found wanted : String)
  | wrongValue (found wanted : String)
  | wrongLength (found : Nat) (wanted : String)
  | timestamp (cause : Time.ReadError)
  | notJson
  deriving DecidableEq, Repr, Inhabited

namespace DecodeError

def ticked (s : String) : String := "`" ++ s ++ "`"

def alternatives : List String → String
  | [] => "there are no variants"
  | [a] => "expected " ++ ticked a
  | [a, b] => "expected " ++ ticked a ++ " or " ++ ticked b
  | names => "expected one of " ++ ", ".intercalate (names.map ticked)

def message : DecodeError → String
  | missingField name => "missing field " ++ ticked name
  | repeatedField name => "duplicate field " ++ ticked name
  | unknownVariant given known => "unknown variant " ++ ticked given ++ ", " ++ alternatives known
  | wrongType found wanted => "invalid type: " ++ found ++ ", expected " ++ wanted
  | wrongValue found wanted => "invalid value: " ++ found ++ ", expected " ++ wanted
  | wrongLength found wanted => "invalid length " ++ toString found ++ ", expected " ++ wanted
  | timestamp cause => cause.message
  | notJson => "not JSON"

end DecodeError

structure Field (V : Type) where
  name : String
  check : V → Except DecodeError Unit
  inObject : Option V
  inList : Option V

namespace Field

def required {V α : Type} (name : String) (read : V → Except DecodeError α) : Field V :=
  ⟨name, fun v => (read v).map fun _ => (), none, none⟩

def withDefault {V α : Type} (name : String) (read : V → Except DecodeError α) (value : V) : Field V :=
  ⟨name, fun v => (read v).map fun _ => (), some value, some value⟩

def optional {V α : Type} (name : String) (read : V → Except DecodeError α) (value : V) : Field V :=
  ⟨name, fun v => (read v).map fun _ => (), some value, none⟩

end Field

section Records

variable {V : Type}

/-- Visits the fields in the order given. `ignore` looks at the values of unknown fields. -/
def visitFields (fields : List (Field V)) (ignore : V → Except DecodeError Unit)
    (seen : List (String × V)) :
    List (String × V) → Except DecodeError (List (String × V))
  | [] => .ok seen.reverse
  | (key, value) :: rest =>
    match fields.find? (·.name = key) with
    | none => do ignore value; visitFields fields ignore seen rest
    | some field =>
      if (seen.lookup key).isSome then .error (.repeatedField key)
      else do field.check value; visitFields fields ignore ((key, value) :: seen) rest

def completeFields (fields : List (Field V)) (seen : List (String × V)) :
    Except DecodeError (List (String × V)) :=
  fields.mapM fun field =>
    match seen.lookup field.name <|> field.inObject with
    | some value => .ok (field.name, value)
    | none => .error (.missingField field.name)

def readFields (fields : List (Field V)) (ignore : V → Except DecodeError Unit)
    (given : List (String × V)) :
    Except DecodeError (List (String × V)) := do
  completeFields fields (← visitFields fields ignore [] given)

def readItems (record : String) (position : Nat) : List (Field V) → List V →
    Except DecodeError (List (String × V) × List V)
  | [], items => .ok ([], items)
  | field :: fields, item :: items => do
    field.check item
    let (values, rest) ← readItems record (position + 1) fields items
    return ((field.name, item) :: values, rest)
  | field :: fields, [] =>
    match field.inList with
    | some value => do
      let (values, rest) ← readItems record (position + 1) fields []
      return ((field.name, value) :: values, rest)
    | none => .error (.wrongLength position record)

def recordText (name : String) (size : Nat) : String :=
  "struct " ++ name ++ " with " ++ toString size ++ " elements"

end Records

namespace Json

def described : Json → String
  | .null => "null"
  | .bool b => "boolean " ++ DecodeError.ticked (if b then "true" else "false")
  | .number (.int n) => "integer " ++ DecodeError.ticked (toString n)
  | .number (.real x) => "floating point " ++ DecodeError.ticked (Number.Notation.report.write x)
  | .text s => "string " ++ Text.quoted s
  | .array _ => "sequence"
  | .object _ => "map"

def wrongType {α : Type} (value : Json) (wanted : String) : Except DecodeError α :=
  .error (.wrongType value.described wanted)

def toText : Json → Except DecodeError String
  | .text s => .ok s
  | value => value.wrongType "a string"

def toBool : Json → Except DecodeError Bool
  | .bool b => .ok b
  | value => value.wrongType "a boolean"

def toDouble : Json → Except DecodeError Number.Double
  | .number (.int n) => .ok (Number.Double.ofInt n)
  | .number (.real x) => .ok x
  | value => value.wrongType "f64"

def toNat (wanted : String) : Json → Except DecodeError Nat
  | .number (.int n) =>
    if 0 ≤ n then .ok n.toNat else .error (.wrongValue (described (.number (.int n))) wanted)
  | value => value.wrongType wanted

def toTimestamp : Json → Except DecodeError Time.Timestamp
  | .text s => (Time.Timestamp.read s).mapError .timestamp
  | value => value.wrongType "an RFC 3339 formatted date and time string"

def toFields : Json → Except DecodeError (List (String × Json))
  | .object fields => .ok fields
  | value => value.wrongType "a map"

def toOptional {α : Type} (read : Json → Except DecodeError α) : Json → Except DecodeError (Option α)
  | .null => .ok none
  | value => (read value).map some

def toAny (value : Json) : Except DecodeError Json := .ok value

def variantOfName {α : Type} (variants : List (String × α)) (name : String) : Except DecodeError α :=
  match variants.lookup name with
  | some a => .ok a
  | none => .error (.unknownVariant name (variants.map (·.1)))

/-- One of a few names, or an object with that name as its one key and null as its value. -/
def toVariant {α : Type} (variants : List (String × α)) : Json → Except DecodeError α
  | .text name => variantOfName variants name
  | .object [(name, content)] => do
    let a ← variantOfName variants name
    if content = .null then return a else content.wrongType "unit"
  | .object _ => .error (.wrongValue "map" "map with a single key")
  | value => value.wrongType "string or map"

def toRecord (name : String) (fields : List (Field Json)) : Json →
    Except DecodeError (List (String × Json))
  | .object given => readFields fields (fun _ => .ok ()) given
  | .array items => do
    let (values, rest) ← readItems (recordText name fields.length) 0 fields items
    if rest ≠ [] then throw (.wrongLength items.length "fewer elements in array")
    return values
  | value => value.wrongType ("struct " ++ name)

end Json

def fieldOf {α : Type} (read : Json → Except DecodeError α) (name : String)
    (record : List (String × Json)) :
    Except DecodeError α :=
  read ((record.lookup name).getD .null)

end Compliance
