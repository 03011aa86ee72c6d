import Compliance.Number.Reading

/-!
JSON values.

A number is a whole number of 64 bits or a double. An object is a list of fields; `ofFields` builds
it with its keys in order and each key once, the last value given to a key winning.
-/

namespace Compliance

def insertKey {α : Type} (key : String) (value : α) : List (String × α) → List (String × α)
  | [] => [(key, value)]
  | (k, v) :: rest =>
    if key = k then (key, value) :: rest
    else if key < k then (key, value) :: (k, v) :: rest
    else (k, v) :: insertKey key value rest

theorem lookup_insertKey_self {α : Type} (key : String) (value : α) (fields : List (String × α)) :
    (insertKey key value fields).lookup key = some value := by
  induction fields with
  | nil => simp [insertKey]
  | cons field rest ih =>
    obtain ⟨k, v⟩ := field
    unfold insertKey
    by_cases hk : key = k
    · simp [hk]
    · by_cases hl : key < k
      · simp [hk, hl]
      · have hb : (key == k) = false := by simp [hk]
        simp [hk, hl, List.lookup_cons, hb, ih]

theorem lookup_insertKey_of_ne {α : Type} {key other : String} (hne : other ≠ key) (value : α)
    (fields : List (String × α)) : (insertKey key value fields).lookup other = fields.lookup other := by
  have hb : (other == key) = false := by simp [hne]
  induction fields with
  | nil => simp [insertKey, List.lookup_cons, hb]
  | cons field rest ih =>
    obtain ⟨k, v⟩ := field
    unfold insertKey
    by_cases hk : key = k
    · subst hk; simp [List.lookup_cons, hb]
    · by_cases hl : key < k
      · simp [hk, hl, List.lookup_cons, hb]
      · simp only [hk, hl, if_false, List.lookup_cons, ih]

inductive JsonNumber
  | int (n : Int)
  | real (x : Number.Double)
  deriving DecidableEq, Repr, Inhabited

inductive Json
  | null
  | bool (b : Bool)
  | number (n : JsonNumber)
  | text (s : String)
  | array (items : List Json)
  | object (fields : List (String × Json))
  deriving Repr, Inhabited

namespace Json

mutual

def decEq : (a b : Json) → Decidable (a = b)
  | .null, .null => isTrue rfl
  | .bool a, .bool b => decidable_of_iff (a = b) (by simp)
  | .number a, .number b => decidable_of_iff (a = b) (by simp)
  | .text a, .text b => decidable_of_iff (a = b) (by simp)
  | .array a, .array b => match decEqItems a b with
    | isTrue h => isTrue (by rw [h])
    | isFalse h => isFalse (by simpa using h)
  | .object a, .object b => match decEqFields a b with
    | isTrue h => isTrue (by rw [h])
    | isFalse h => isFalse (by simpa using h)
  | .null, .bool _ | .null, .number _ | .null, .text _ | .null, .array _ | .null, .object _
  | .bool _, .null | .bool _, .number _ | .bool _, .text _ | .bool _, .array _ | .bool _, .object _
  | .number _, .null | .number _, .bool _ | .number _, .text _ | .number _, .array _
  | .number _, .object _
  | .text _, .null | .text _, .bool _ | .text _, .number _ | .text _, .array _ | .text _, .object _
  | .array _, .null | .array _, .bool _ | .array _, .number _ | .array _, .text _ | .array _, .object _
  | .object _, .null | .object _, .bool _ | .object _, .number _ | .object _, .text _
  | .object _, .array _ => isFalse (by simp)

def decEqItems : (a b : List Json) → Decidable (a = b)
  | [], [] => isTrue rfl
  | a :: as, b :: bs => match decEq a b, decEqItems as bs with
    | isTrue h, isTrue t => isTrue (by rw [h, t])
    | isFalse h, _ => isFalse (by simp [h])
    | _, isFalse t => isFalse (by simp [t])
  | [], _ :: _ | _ :: _, [] => isFalse (by simp)

def decEqFields : (a b : List (String × Json)) → Decidable (a = b)
  | [], [] => isTrue rfl
  | (k, a) :: as, (l, b) :: bs =>
    if hk : k = l then
      match decEq a b, decEqFields as bs with
      | isTrue h, isTrue t => isTrue (by rw [hk, h, t])
      | isFalse h, _ => isFalse (by simp [h])
      | _, isFalse t => isFalse (by simp [t])
    else isFalse (by simp [hk])
  | [], _ :: _ | _ :: _, [] => isFalse (by simp)

end

instance : DecidableEq Json := decEq

def int (n : Int) : Json := .number (.int n)

def real (x : Number.Double) : Json := .number (.real x)

def ofFields (fields : List (String × Json)) : Json :=
  .object (fields.foldl (fun acc field => insertKey field.1 field.2 acc) [])

def get? (key : String) : Json → Option Json
  | .object fields => fields.lookup key
  | _ => none

def text? : Json → Option String
  | .text s => some s
  | _ => none

def items : Json → List Json
  | .array items => items
  | _ => []

def ofText? : Option String → Json
  | some s => .text s
  | none => .null

def kind : Json → String
  | .null => "null"
  | .bool _ => "a boolean"
  | .number _ => "a number"
  | .text _ => "a string"
  | .array _ => "an array"
  | .object _ => "an object"

end Json

end Compliance
