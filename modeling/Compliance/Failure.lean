import Compliance.Rule.Basic
import Compliance.Yaml.Cursor

/-!
What can go wrong around the rules: in the database, in files, and in the settings.

A failure has its wording (`message`), and most have a code and a line of help. `causes` tells it
from the outside in.
-/

namespace Compliance

inductive SettingsFault
  | unreadable (path cause : String)
  | malformed (path : String) (cause : Yaml.Fault)
  | notANumber (name given : String)
  | refused (reason : String)
  deriving DecidableEq, Repr, Inhabited

def SettingsFault.message : SettingsFault → String
  | unreadable path cause => "Failed to read config at " ++ Text.quotedPath path ++ ": " ++ cause
  | malformed path cause =>
    "Failed to parse config YAML at " ++ Text.quotedPath path ++ ": " ++ cause.message
  | notANumber name given => name ++ " must be a positive integer, got '" ++ given ++ "'"
  | refused reason => reason

inductive Failure
  | domain (cause : Rule.DomainError)
  | database (reason : String)
  | corruptRow (table reason : String)
  | file (reason : String)
  | yaml (cause : Yaml.Fault)
  | settings (fault : SettingsFault)
  | outOfRange (names : List String)
  | internal (reason : String)
  deriving DecidableEq, Repr

namespace Failure

def rangeMessage (names : List String) : String :=
  "\n".intercalate (names.map (· ++ ": Validation error: range"))

def message : Failure → String
  | domain cause => cause.message
  | database reason => "DuckDB Engine Error: " ++ reason
  | corruptRow table reason => "Corrupt bookkeeping row in '" ++ table ++ "': " ++ reason
  | file reason => "File System Error: " ++ reason
  | yaml cause => "YAML Parsing Error: " ++ cause.message
  | settings fault => "Configuration Error: " ++ fault.message
  | outOfRange names => "Invalid configuration: " ++ rangeMessage names
  | internal reason => "Internal Error: " ++ reason

def code? : Failure → Option String
  | domain cause => some cause.code
  | database _ => some "vigil::infra::database::duckdb"
  | corruptRow .. => some "vigil::infra::database::corrupt_row"
  | file _ => some "vigil::infra::io"
  | yaml _ => some "vigil::infra::yaml"
  | settings _ => some "vigil::infra::config"
  | outOfRange _ => some "vigil::infra::config_invalid"
  | internal _ => none

def help? : Failure → Option String
  | domain cause => cause.help?
  | database _ => some "An error occurred inside the SQL engine."
  | corruptRow .. => some "The row was written outside vigil or by an incompatible version."
  | file _ => some "Check file permissions or path validity."
  | yaml _ => some "Check your YAML syntax (indentation, types)."
  | outOfRange _ =>
    some "max-rows-per-rule and rule-timeout-ms must be at least 1, max-workers between 1 and 64."
  | settings _ | internal _ => none

def causes (failure : Failure) : List String :=
  failure.message :: match failure with
    | database reason | file reason => [reason]
    | yaml cause => [cause.message]
    | outOfRange names => [rangeMessage names]
    | _ => []

end Failure

end Compliance
