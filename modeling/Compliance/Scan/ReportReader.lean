import Compliance.Json.Draft
import Compliance.Scan.Report

/-!
Reading a report file.

The text is decoded as far as it is JSON, in its own order, so that a value that does not fit is
found before a fault further on in the text. The milliseconds are read from the digits themselves
and may have up to 128 bits.
-/

namespace Compliance.Json.Draft

def wrongType {α : Type} (value : Draft) (wanted : String) : Except DecodeError α :=
  match value with
  | .null => Json.null.wrongType wanted
  | .bool b => (Json.bool b).wrongType wanted
  | .number _ (some n) => (Json.number n).wrongType wanted
  | .text s => (Json.text s).wrongType wanted
  | .array _ => .error (.wrongType "sequence" wanted)
  | .object _ => .error (.wrongType "map" wanted)
  | .number _ none | .broken => .error .notJson

def readText : Draft → Except DecodeError String
  | .text s => .ok s
  | value => value.wrongType "a string"

def readBool : Draft → Except DecodeError Bool
  | .bool b => .ok b
  | value => value.wrongType "a boolean"

def readCount : Draft → Except DecodeError Nat
  | .number _ (some n) => (Json.number n).toNat "usize"
  | value => value.wrongType "usize"

def readMillis : Draft → Except DecodeError Nat
  | .number literal _ =>
    match Number.natOfDigits? literal with
    | some n => if n < Nat.pow 2 128 then .ok n else .error .notJson
    | none => .error .notJson
  | _ => .error .notJson

def readTimestamp : Draft → Except DecodeError Time.Timestamp
  | .text s => (Time.Timestamp.read s).mapError .timestamp
  | value => value.wrongType "an RFC 3339 formatted date and time string"

def readOptionalText : Draft → Except DecodeError (Option String)
  | .null => .ok none
  | value => (readText value).map some

def readList {α : Type} (read : Draft → Except DecodeError α) : Draft → Except DecodeError (List α)
  | .array items => items.mapM read
  | value => value.wrongType "a sequence"

mutual

def ignore : Draft → Except DecodeError Unit
  | .broken => .error .notJson
  | .array items => ignoreItems items
  | .object fields => ignoreFields fields
  | _ => .ok ()

def ignoreItems : List Draft → Except DecodeError Unit
  | [] => .ok ()
  | item :: rest => do ignore item; ignoreItems rest

def ignoreFields : List (String × Draft) → Except DecodeError Unit
  | [] => .ok ()
  | (_, value) :: rest => do ignore value; ignoreFields rest

end

/-- The fields of a record. A list that goes on after the last field is no JSON of this shape. -/
def readRecord (name : String) (fields : List (Field Draft)) : Draft →
    Except DecodeError (List (String × Draft))
  | .object given => readFields fields ignore given
  | .array items => do
    let (values, rest) ← readItems (recordText name fields.length) 0 fields items
    if rest.isEmpty then return values else throw .notJson
  | value => value.wrongType ("struct " ++ name)

def partOf {α : Type} (read : Draft → Except DecodeError α) (name : String)
    (record : List (String × Draft)) :
    Except DecodeError α :=
  read ((record.lookup name).getD .null)

end Compliance.Json.Draft

namespace Compliance.Scan.Report

open Json Json.Draft

def newViolationFields : List (Field Draft) :=
  [.required "id" readText, .required "rule" readText, .required "table_name" readText,
    .required "record_id" readText]

def readNewViolation (value : Draft) : Except DecodeError NewViolation := do
  let record ← readRecord "NewViolationRef" newViolationFields value
  return {
    id := ← partOf readText "id" record
    rule := ← partOf readText "rule" record
    table := ← partOf readText "table_name" record
    recordId := ← partOf readText "record_id" record }

def lineFields : List (Field Draft) := [
  .required "rule_id" readText, .required "rule_name" readText, .required "outcome" readText,
  .required "matched_rows" readCount, .required "truncated" readBool,
  .optional "error" readOptionalText .null]

def readLine (value : Draft) : Except DecodeError RuleLine := do
  let record ← readRecord "RuleSummary" lineFields value
  return {
    ruleId := ← partOf readText "rule_id" record
    ruleName := ← partOf readText "rule_name" record
    outcome := ← partOf readText "outcome" record
    matchedRows := ← partOf readCount "matched_rows" record
    truncated := ← partOf readBool "truncated" record
    error := ← partOf readOptionalText "error" record }

def reportFields : List (Field Draft) := [
  .required "started_at" readTimestamp, .required "duration_ms" readMillis,
  .required "rules_evaluated" readCount,
  .required "rules_failed" readCount, .required "cancelled" readBool,
  .required "violations_found" readCount,
  .required "new_violations" (readList readNewViolation), .required "rules" (readList readLine)]

def ofDraft (value : Draft) : Except DecodeError Report := do
  let record ← readRecord "ScanReport" reportFields value
  return {
    startedAt := ← partOf readTimestamp "started_at" record
    durationMillis := ← partOf readMillis "duration_ms" record
    rulesEvaluated := ← partOf readCount "rules_evaluated" record
    rulesFailed := ← partOf readCount "rules_failed" record
    cancelled := ← partOf readBool "cancelled" record
    violationsFound := ← partOf readCount "violations_found" record
    newViolations := ← partOf (readList readNewViolation) "new_violations" record
    rules := ← partOf (readList readLine) "rules" record }

def read (text : String) : Except DecodeError Report := do
  let reading := Draft.ofText text
  let report ← ofDraft reading.value
  if reading.complete then return report else throw .notJson

end Compliance.Scan.Report
