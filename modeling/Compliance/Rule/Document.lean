import Compliance.Rule.Basic
import Compliance.Yaml.Value

/-!
Documents of proposed rules.

A document is a list of records, a mapping whose `rules` entry is such a list, or a mapping that is
one record itself. Each record is read on its own, so that one that does not fit leaves the others
alone (`Entry.ofRecords`).
-/

namespace Compliance.Rule

structure Entry where
  index : Nat
  record : Except DecodeError Proposal

def Entry.ofRecords (records : List Json) : List Entry :=
  records.zipIdx.map fun (record, index) => ⟨index, Proposal.ofJson record⟩

namespace Document

open Yaml (Value Fault)

/-- The list under `rules`, if the mapping has that key once. A number may stand for a key by its
position. -/
def rulesIn (found : Option (List Json)) : List (Value × Value) → Option (List Json)
  | [] => found
  | (key, value) :: rest =>
    let isRules : Option Bool := match key with
      | .text name => some (name = "rules")
      | .int n => if 0 ≤ n then some (n = 0) else none
      | _ => none
    match isRules, found, value with
    | some false, _, _ => rulesIn found rest
    | some true, none, .list items => do rulesIn (some (← Value.itemsToJson? items)) rest
    | _, _, _ => none

def records? (document : Value) : Option (List Json) :=
  match document with
  | .list items => Value.itemsToJson? items
  | .mapping entries => rulesIn none entries <|> (document.toJson?.map fun record => [record])
  | _ => none

def ofValue (document : Value) : Except Fault (List Entry) :=
  match records? document with
  | some records => .ok (Entry.ofRecords records)
  | none => .error (.misplaced "value: expected rules")

def ofText (text : String) : Except Fault (List Entry) := do
  ofValue (← (← Yaml.Document.ofText text).value)

end Document

end Compliance.Rule
