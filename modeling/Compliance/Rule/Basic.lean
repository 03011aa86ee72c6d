import Compliance.Json.Decode
import Compliance.Rule.Spec

/-!
Rules with their statuses, and rules as they are proposed.

A proposal is what an extractor writes; accepted, it becomes a rule with an identity and a time
(`Proposal.toRule`). Both keep the kind and the parameters as they were written, and `spec` reads
them.
-/

namespace Compliance

namespace Rule

inductive Status
  | pending | active | disabled
  deriving DecidableEq, Repr, Inhabited

namespace Status

def all : List Status := [pending, active, disabled]

def scannable : List Status := [pending, active]

def isScannable (s : Status) : Bool := scannable.contains s

def name : Status → String
  | pending => "pending"
  | active => "active"
  | disabled => "disabled"

def variants : List (String × Status) := all.map fun s => (s.name, s)

def ofName? (text : String) : Option Status := variants.lookup (Text.lowercase text)

def unknownMessage (text : String) : String := "Unknown rule status: " ++ text

end Status

end Rule

structure Rule where
  id : String
  name : String
  kind : String
  description : String
  parameters : Json
  confidence : Number.Double
  status : Rule.Status
  createdAt : Time.Timestamp
  source : Option String
  deriving DecidableEq, Repr

namespace Rule

def spec (rule : Rule) : Except CompileError Spec := Spec.read rule.kind rule.parameters

def fields : List (Field Json) := [
  .required "id" Json.toText, .required "name" Json.toText, .required "rule_type" Json.toText,
  .required "description" Json.toText, .required "parameters" Json.toAny,
  .required "confidence_score" Json.toDouble, .required "status" (Json.toVariant Status.variants),
  .required "created_at" Json.toTimestamp,
  .withDefault "source_document" (Json.toOptional Json.toText) .null]

def ofJson (value : Json) : Except DecodeError Rule := do
  let record ← value.toRecord "Rule" fields
  return {
    id := ← fieldOf Json.toText "id" record
    name := ← fieldOf Json.toText "name" record
    kind := ← fieldOf Json.toText "rule_type" record
    description := ← fieldOf Json.toText "description" record
    parameters := ← fieldOf Json.toAny "parameters" record
    confidence := ← fieldOf Json.toDouble "confidence_score" record
    status := ← fieldOf (Json.toVariant Status.variants) "status" record
    createdAt := ← fieldOf Json.toTimestamp "created_at" record
    source := ← fieldOf (Json.toOptional Json.toText) "source_document" record }

def toJson (rule : Rule) : Json := .object [
  ("id", .text rule.id), ("name", .text rule.name), ("rule_type", .text rule.kind),
  ("description", .text rule.description), ("parameters", rule.parameters),
  ("confidence_score", .real rule.confidence), ("status", .text rule.status.name),
  ("created_at", .text rule.createdAt.write), ("source_document", Json.ofText? rule.source)]

structure Proposal where
  name : String
  kind : String
  description : String
  parameters : Json
  confidence : Number.Double
  status : Status
  source : Option String
  deriving DecidableEq, Repr

inductive InvalidReason
  | blankName
  | confidence (given : Number.Double)
  deriving DecidableEq, Repr, Inhabited

def InvalidReason.message : InvalidReason → String
  | blankName => "rule_name is empty"
  | confidence given =>
    "confidence_score " ++ Number.Notation.message.write given ++ " is outside [0, 1]"

inductive DomainError
  | compile (cause : CompileError)
  | invalidRule (name : String) (reason : InvalidReason)
  | ruleNotFound (id : String)
  deriving DecidableEq, Repr, Inhabited

namespace DomainError

def message : DomainError → String
  | compile cause => cause.message
  | invalidRule name reason => "Invalid rule record '" ++ name ++ "': " ++ reason.message
  | ruleNotFound id => "Rule '" ++ id ++ "' not found"

def code : DomainError → String
  | compile cause => cause.code
  | invalidRule .. => "vigil::domain::rule"
  | ruleNotFound _ => "vigil::domain::rule_not_found"

def help? : DomainError → Option String
  | compile cause => cause.help?
  | _ => none

end DomainError

namespace Proposal

def fields : List (Field Json) := [
  .required "rule_name" Json.toText, .required "rule_type" Json.toText,
  .withDefault "description" Json.toText (.text ""), .withDefault "parameters" Json.toAny (.object []),
  .withDefault "confidence_score" Json.toDouble (.real Number.Double.zero),
  .withDefault "status" (Json.toVariant Status.variants) (.text "pending"),
  .withDefault "source_document" (Json.toOptional Json.toText) .null]

def ofJson (value : Json) : Except DecodeError Proposal := do
  let record ← value.toRecord "NewRule" fields
  return {
    name := ← fieldOf Json.toText "rule_name" record
    kind := ← fieldOf Json.toText "rule_type" record
    description := ← fieldOf Json.toText "description" record
    parameters := ← fieldOf Json.toAny "parameters" record
    confidence := ← fieldOf Json.toDouble "confidence_score" record
    status := ← fieldOf (Json.toVariant Status.variants) "status" record
    source := ← fieldOf (Json.toOptional Json.toText) "source_document" record }

def toJson (proposal : Proposal) : Json := .object [
  ("rule_name", .text proposal.name), ("rule_type", .text proposal.kind),
  ("description", .text proposal.description), ("parameters", proposal.parameters),
  ("confidence_score", .real proposal.confidence), ("status", .text proposal.status.name),
  ("source_document", Json.ofText? proposal.source)]

def isProbability (x : Number.Double) : Bool :=
  Operator.greaterOrEqual.holds Number.Double.compare? x Number.Double.zero
    && Operator.lessOrEqual.holds Number.Double.compare? x (Number.Double.ofInt 1)

def validate (proposal : Proposal) : Except DomainError Spec :=
  if Text.trim proposal.name = "" then .error (.invalidRule proposal.name .blankName)
  else if !isProbability proposal.confidence
    then .error (.invalidRule proposal.name (.confidence proposal.confidence))
  else (Spec.read proposal.kind proposal.parameters).mapError .compile

def toRule (proposal : Proposal) (id : String) (createdAt : Time.Timestamp) : Rule :=
  { id, name := proposal.name, kind := proposal.kind, description := proposal.description,
    parameters := proposal.parameters, confidence := proposal.confidence, status :=
      proposal.status, createdAt,
    source := proposal.source }

end Proposal

end Rule

end Compliance
