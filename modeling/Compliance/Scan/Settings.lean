import Compliance.Failure
import Compliance.Time.Duration
import Compliance.Violation.Basic
import Compliance.Yaml.Value

/-!
The settings of a scan.

They come from a settings file, with a usual value for what it leaves out, then from the variables
of the environment, and are checked last (`Settings.load`). A text setting takes the text of any
scalar as it is written.
-/

namespace Compliance.Scan

structure Settings where
  databasePath : String
  maxRows : Nat
  timeoutMillis : Nat
  maxWorkers : Nat
  dedup : Violation.DedupPolicy
  persistOnCancel : Bool
  reportPath : Option String
  deriving DecidableEq, Repr

namespace Settings

def usual : Settings := ⟨"vigil.duckdb", 1000, 30000, 4, .append, true, none⟩

instance : Inhabited Settings := ⟨usual⟩

def timeout (settings : Settings) : Time.Duration := .ofMillis settings.timeoutMillis

def toJson (settings : Settings) : Json := .object [
  ("database-path", .text settings.databasePath), ("max-rows-per-rule", .int settings.maxRows),
  ("rule-timeout-ms", .int settings.timeoutMillis), ("max-workers", .int settings.maxWorkers),
  ("dedup", .text settings.dedup.name), ("persist-on-cancel", .bool settings.persistOnCancel),
  ("report-path", Json.ofText? settings.reportPath)]

def fields : List (Field Json) := [
  .withDefault "database-path" Json.toText (.text usual.databasePath),
  .withDefault "max-rows-per-rule" (Json.toNat "usize") (.int usual.maxRows),
  .withDefault "rule-timeout-ms" (Json.toNat "u64") (.int usual.timeoutMillis),
  .withDefault "max-workers" (Json.toNat "usize") (.int usual.maxWorkers),
  .withDefault "dedup" (Json.toVariant Violation.DedupPolicy.variants) (.text usual.dedup.name),
  .withDefault "persist-on-cancel" Json.toBool (.bool usual.persistOnCancel),
  .withDefault "report-path" (Json.toOptional Json.toText) .null]

def ofJson (value : Json) : Except DecodeError Settings := do
  let record ← value.toRecord "ScanConfig" fields
  return {
    databasePath := ← fieldOf Json.toText "database-path" record
    maxRows := ← fieldOf (Json.toNat "usize") "max-rows-per-rule" record
    timeoutMillis := ← fieldOf (Json.toNat "u64") "rule-timeout-ms" record
    maxWorkers := ← fieldOf (Json.toNat "usize") "max-workers" record
    dedup := ← fieldOf (Json.toVariant Violation.DedupPolicy.variants) "dedup" record
    persistOnCancel := ← fieldOf Json.toBool "persist-on-cancel" record
    reportPath := ← fieldOf (Json.toOptional Json.toText) "report-path" record }

open Yaml (Node Fault)

def misplaced {α : Type} (name : String) : Except Fault α := .error (.misplaced ("value of " ++ name))

def textOf (name : String) : Node → Except Fault String
  | .scalar _ _ text => .ok text
  | _ => misplaced name

def plainOf (name tag : String) : Node → Except Fault String
  | .scalar properties style text =>
    if style = .plain || (style = .literal && properties.tag = some (Yaml.Value.coreTag tag))
      then .ok text
    else misplaced name
  | _ => misplaced name

def natOf (name : String) (node : Node) : Except Fault Nat := do
  match Yaml.Plain.nat64? (← plainOf name "int" node).toList with
  | some n => return n
  | none => misplaced name

def boolOf (name : String) (node : Node) : Except Fault Bool := do
  match Yaml.Plain.bool? (← plainOf name "bool" node) with
  | some b => return b
  | none => misplaced name

def optionalTextOf (name : String) : Node → Except Fault (Option String)
  | .scalar properties style text =>
    if style ≠ .plain then .ok (some text)
    else match properties.tag with
      | none => .ok (if text = "" || Yaml.Plain.isNull text then none else some text)
      | some tag =>
        if tag ≠ Yaml.Value.coreTag "null" then .ok (some text)
        else if Yaml.Plain.isNull text then .ok none
        else .error (.wrongScalar "null" text)
  | _ => misplaced name

def dedupOf (name : String) : Node → Except Fault Violation.DedupPolicy
  | .scalar properties style text => do
    let given ← match properties.tag.map String.toList with
      | some ('!' :: tag) =>
        if style = .plain && (text = "" || Yaml.Plain.isNull text) then pure (String.ofList tag)
        else misplaced name
      | _ => pure text
    match Violation.DedupPolicy.variants.lookup given with
    | some policy => return policy
    | none => misplaced name
  | _ => misplaced name

def setEntry (settings : Settings) (name : String) (node : Node) : Except Fault Settings :=
  match name with
  | "database-path" => return { settings with databasePath := ← textOf name node }
  | "max-rows-per-rule" => return { settings with maxRows := ← natOf name node }
  | "rule-timeout-ms" => return { settings with timeoutMillis := ← natOf name node }
  | "max-workers" => return { settings with maxWorkers := ← natOf name node }
  | "dedup" => return { settings with dedup := ← dedupOf name node }
  | "persist-on-cancel" => return { settings with persistOnCancel := ← boolOf name node }
  | "report-path" => return { settings with reportPath := ← optionalTextOf name node }
  | _ => .ok settings

def isSetting (name : String) : Bool := fields.any (·.name = name)

def resolve (anchors : List (Nat × Node)) : Node → Node
  | .reference id => (anchors.lookup id).getD .empty
  | node => node

def setEntries (anchors : List (Nat × Node)) (seen : List String) (settings : Settings) :
    List (Node × Node) → Except Fault Settings
  | [] => .ok settings
  | (key, value) :: rest => do
    let name ← textOf "a key" (resolve anchors key)
    if isSetting name && seen.contains name then throw (.misplaced ("second " ++ name))
    let settings ← setEntry settings name (if isSetting name then resolve anchors value else value)
    setEntries anchors (name :: seen) settings rest

def ofDocument (document : Yaml.Document) : Except Fault Settings :=
  match document.root.map (resolve document.anchors) with
  | none => .ok usual
  | some (.mapping _ entries) => setEntries document.anchors [] usual entries
  | some (.scalar _ style text) =>
    if style = .plain ∧ text = "" then .ok usual else misplaced "the document"
  | some _ => misplaced "the document"

def ofText (text : String) : Except Fault Settings := do ofDocument (← Yaml.Document.ofText text)

inductive FileState
  | absent
  | unreadable (cause : String)
  | text (content : String)
  deriving DecidableEq, Repr, Inhabited

def fileNames : List String := ["vigil.yaml", "vigil.yml"]

def ofFile (path : String) : FileState → Except Failure Settings
  | .absent => .ok usual
  | .unreadable cause => .error (.settings (.unreadable path cause))
  | .text content => (ofText content).mapError fun fault => .settings (.malformed path fault)

def ofFiles (fileAt : String → FileState) (pathOf : String → String) : Except Failure Settings :=
  match fileNames.find? (fileAt · ≠ .absent) with
  | some name => ofFile (pathOf name) (fileAt name)
  | none => .ok usual

def variableOr (environment : String → Option String) (name : String) (usual : Nat) :
    Except Failure Nat :=
  match environment name with
  | none => .ok usual
  | some given =>
    match Number.nat64? (Text.trim given).toList with
    | some n => .ok n
    | none => .error (.settings (.notANumber name given))

def databasePathVariable : String := "VIGIL_DATABASE_PATH"

def maxRowsVariable : String := "VIGIL_MAX_ROWS"

def timeoutVariable : String := "VIGIL_RULE_TIMEOUT_MS"

def maxWorkersVariable : String := "VIGIL_MAX_WORKERS"

def variableNames : List String :=
  [databasePathVariable, maxRowsVariable, timeoutVariable, maxWorkersVariable]

def withEnvironment (settings : Settings) (environment : String → Option String) :
    Except Failure Settings := do
  let maxRows ← variableOr environment maxRowsVariable settings.maxRows
  let timeoutMillis ← variableOr environment timeoutVariable settings.timeoutMillis
  let maxWorkers ← variableOr environment maxWorkersVariable settings.maxWorkers
  return { settings with
    databasePath := (environment databasePathVariable).getD settings.databasePath
    maxRows, timeoutMillis, maxWorkers }

def workersLimit : Nat := 64

def outOfRange (settings : Settings) : List String :=
  (if settings.maxRows < 1 then ["max_rows_per_rule"] else [])
    ++ (if settings.maxWorkers < 1 ∨ workersLimit < settings.maxWorkers then ["max_workers"] else [])
    ++ (if settings.timeoutMillis < 1 then ["rule_timeout_ms"] else [])

def check (settings : Settings) : Except Failure Settings :=
  if settings.outOfRange = [] then .ok settings else .error (.outOfRange settings.outOfRange)

def load (fileAt : String → FileState) (pathOf : String → String)
    (environment : String → Option String) :
    Except Failure Settings := do
  let settings ← ofFiles fileAt pathOf
  (← settings.withEnvironment environment).check

end Settings

end Compliance.Scan
