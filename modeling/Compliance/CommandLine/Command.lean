import Compliance.Rule.Basic
import Compliance.Violation.Basic

/-!
The commands of the program.
-/

namespace Compliance.CommandLine

structure Place where
  projectDir : String
  databasePath : Option String
  deriving DecidableEq, Repr, Inhabited

inductive Format
  | table | json
  deriving DecidableEq, Repr, Inhabited

namespace Format

def name : Format → String
  | table => "table"
  | json => "json"

def ofName? (text : String) : Option Format := [table, json].find? (·.name = text)

end Format

inductive Task
  | init
  | load (file : String)
  | rules (status : Option Rule.Status) (format : Format)
  | compile (ruleId : Option String) (format : Format)
  | scan (format : Format)
  | violations (filter : Violation.Filter) (format : Format)
  deriving DecidableEq, Repr, Inhabited

structure Command where
  place : Place
  task : Task
  deriving DecidableEq, Repr, Inhabited

end Compliance.CommandLine
