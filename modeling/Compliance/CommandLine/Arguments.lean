import Compliance.CommandLine.Command

/-!
Reading the words of a command line.

The first word names the task, and the words after it give its parameters, in any order and each at
most once. The value of an option stands after `=` or is the next word, which then may not look like
an option; after `--` no word is an option. A parameter is settled when the next one begins: it is
then that a missing, a repeated or a bad value is found, so that of two faults the one found first
is told.
-/

namespace Compliance.CommandLine

inductive UsageError
  | help
  | version
  | noTask
  | unknownTask
  | unknownArgument
  | missingArgument
  | invalidValue
  | unknownName
  | repeatedOption
  | needlessValue
  deriving DecidableEq, Repr, Inhabited

def UsageError.isQuestion : UsageError → Bool
  | help | version => true
  | _ => false

def usageLines : List String := [
  "Compiles compliance rules into SQL and scans your database for violations", "",
  "Usage: vigil <COMMAND>", "",
  "Commands:",
  "  init        Creates the bookkeeping tables (compliance_rules, violations)",
  "  import      Imports rules from a YAML or JSON file: <FILE>",
  "  rules       Lists stored rules: --status, --format",
  "  compile     Compiles rules to SQL without running them: --rule-id, --format",
  "  scan        Runs every pending/active rule and records violations: --format",
  "  violations  Lists recorded violations, newest first: --severity, --status, --format", "",
  "Every command takes --project-dir (default: .) and --db-path."]

def usageText : String := String.join (usageLines.map (· ++ "\n"))

namespace UsageError

def message : UsageError → String
  | help | noTask => usageText
  | version => "vigil 0.1.0\n"
  | unknownTask => "error: unrecognized subcommand\n"
  | unknownArgument => "error: unexpected argument found\n"
  | missingArgument => "error: the following required arguments were not provided: <FILE>\n"
  | invalidValue => "error: an argument has no value, or one that is not possible\n"
  | unknownName => "error: invalid value for a status or a severity\n"
  | repeatedOption => "error: an argument cannot be used multiple times\n"
  | needlessValue => "error: unexpected value for an argument that takes none\n"

def exitCode (e : UsageError) : Nat := if e.isQuestion then 0 else 2

end UsageError

inductive Parameter
  | projectDir | databasePath | file | ruleStatus | violationStatus | severity | ruleId | format
  deriving DecidableEq, Repr, Inhabited

def Parameter.name? : Parameter → Option String
  | projectDir => some "project-dir"
  | databasePath => some "db-path"
  | file => none
  | ruleStatus | violationStatus => some "status"
  | severity => some "severity"
  | ruleId => some "rule-id"
  | format => some "format"

inductive Verb
  | init | load | rules | compile | scan | violations
  deriving DecidableEq, Repr, Inhabited

namespace Verb

def all : List Verb := [init, load, rules, compile, scan, violations]

def name : Verb → String
  | init => "init"
  | load => "import"
  | rules => "rules"
  | compile => "compile"
  | scan => "scan"
  | violations => "violations"

def ofName? (text : String) : Option Verb := all.find? (·.name = text)

def ownParameters : Verb → List Parameter
  | init => []
  | load => [.file]
  | rules => [.ruleStatus, .format]
  | compile => [.ruleId, .format]
  | scan => [.format]
  | violations => [.severity, .violationStatus, .format]

def parameters (verb : Verb) : List Parameter := [.projectDir, .databasePath] ++ verb.ownParameters

def option? (verb : Verb) (name : String) : Option Parameter :=
  verb.parameters.find? (·.name? = some name)

def takesFile (verb : Verb) : Bool := verb.parameters.contains .file

end Verb

structure Given where
  projectDir : Option String
  databasePath : Option String
  file : Option String
  ruleStatus : Option Rule.Status
  violationStatus : Option Violation.Status
  severity : Option Violation.Severity
  ruleId : Option String
  format : Option Format
  deriving DecidableEq, Repr, Inhabited

namespace Given

def nothing : Given := ⟨none, none, none, none, none, none, none, none⟩

def has (given : Given) : Parameter → Bool
  | .projectDir => given.projectDir.isSome
  | .databasePath => given.databasePath.isSome
  | .file => given.file.isSome
  | .ruleStatus => given.ruleStatus.isSome
  | .violationStatus => given.violationStatus.isSome
  | .severity => given.severity.isSome
  | .ruleId => given.ruleId.isSome
  | .format => given.format.isSome

def pathOf (text : String) : Except UsageError String :=
  if text = "" then .error .invalidValue else .ok text

def named {α : Type} (fault : UsageError) (value : Option α) : Except UsageError α :=
  match value with
  | some value => .ok value
  | none => .error fault

def set (given : Given) (parameter : Parameter) (text : String) : Except UsageError Given := do
  if given.has parameter then throw .repeatedOption
  match parameter with
  | .projectDir => return { given with projectDir := some (← pathOf text) }
  | .databasePath => return { given with databasePath := some text }
  | .file => return { given with file := some (← pathOf text) }
  | .ruleStatus =>
    return { given with ruleStatus := some (← named .unknownName (Rule.Status.ofName? text)) }
  | .violationStatus =>
    return { given with violationStatus := some (← named .unknownName (Violation.Status.ofName? text)) }
  | .severity =>
    return { given with severity := some (← named .unknownName (Violation.Severity.ofName? text)) }
  | .ruleId => return { given with ruleId := some text }
  | .format => return { given with format := some (← named .invalidValue (Format.ofName? text)) }

def task (given : Given) : Verb → Except UsageError Task
  | .init => .ok .init
  | .load =>
    match given.file with
    | some file => .ok (.load file)
    | none => .error .missingArgument
  | .rules => .ok (.rules given.ruleStatus (given.format.getD .table))
  | .compile => .ok (.compile given.ruleId (given.format.getD .table))
  | .scan => .ok (.scan (given.format.getD .table))
  | .violations => .ok (.violations ⟨given.severity, given.violationStatus⟩ (given.format.getD .table))

def place (given : Given) : Place := ⟨given.projectDir.getD ".", given.databasePath⟩

end Given

inductive Word
  | divider
  | option (name : String) (value : Option String)
  | letters (first : Char) (rest : List Char)
  | plain
  deriving DecidableEq, Repr, Inhabited

def Word.ofChars : List Char → Word
  | ['-', '-'] => .divider
  | '-' :: '-' :: s =>
    match s.span (· ≠ '=') with
    | (name, _ :: value) => .option (String.ofList name) (some (String.ofList value))
    | (name, []) => .option (String.ofList name) none
  | '-' :: c :: s => .letters c s
  | _ => .plain

def Word.ofText (text : String) : Word := .ofChars text.toList

structure Reading where
  verb : Verb
  given : Given
  begun : Option (Parameter × Option String)
  /-- Whether all words are plain from here on. -/
  divided : Bool
  deriving DecidableEq, Repr, Inhabited

namespace Reading

def start (verb : Verb) : Reading := ⟨verb, .nothing, none, false⟩

def settle (r : Reading) : Except UsageError Reading :=
  match r.begun with
  | none => .ok r
  | some (_, none) => .error .invalidValue
  | some (parameter, some text) => return { r with given := ← r.given.set parameter text, begun := none }

def hasFile (r : Reading) : Bool := r.given.has .file || r.begun.any (·.1 = .file)

def place (r : Reading) (text : String) : Except UsageError Reading := do
  if !r.verb.takesFile || r.hasFile then throw .unknownArgument
  return { ← r.settle with begun := some (.file, some text) }

def plain (r : Reading) (text : String) : Except UsageError Reading :=
  match r.begun with
  | some (parameter, none) => .ok { r with begun := some (parameter, some text) }
  | _ => r.place text

def askHelp (r : Reading) : Except UsageError Reading := do
  let _ ← r.settle
  throw .help

def option (r : Reading) (name : String) (value : Option String) : Except UsageError Reading :=
  if name = "help" then
    match value with
    | none => r.askHelp
    | some _ => .error .needlessValue
  else match r.verb.option? name, value with
    | none, _ => .error .unknownArgument
    | some parameter, some text => do
      let r ← r.settle
      return { r with given := ← r.given.set parameter text }
    | some parameter, none => return { ← r.settle with begun := some (parameter, none) }

def step (r : Reading) (text : String) : Except UsageError Reading :=
  if r.divided then r.place text
  else match Word.ofText text with
    | .divider => .ok { r with divided := true }
    | .option name value => r.option name value
    | .letters first _ => if first = 'h' then r.askHelp else .error .unknownArgument
    | .plain => r.plain text

def finish (r : Reading) : Except UsageError Command := do
  let r ← r.settle
  return ⟨r.given.place, ← r.given.task r.verb⟩

end Reading

def helpWord : String := "help"

def isTaskWord (text : String) : Bool := text = helpWord || (Verb.ofName? text).isSome

def helpOn : List String → UsageError
  | [] => .help
  | [word] => if isTaskWord word then .help else .unknownTask
  | _ => .unknownTask

def refuseFirst (text : String) : UsageError :=
  match Word.ofText text with
  | .option name value =>
    if name = "help" || name = "version" then
      if value.isSome then .needlessValue else if name = "help" then .help else .version
    else .unknownArgument
  | .letters first _ => if first = 'h' then .help else if first = 'V' then .version else .unknownArgument
  | _ => .unknownTask

def read : List String → Except UsageError Command
  | [] => .error .noTask
  | first :: words =>
    match Verb.ofName? first with
    | some verb => do (← words.foldlM Reading.step (Reading.start verb)).finish
    | none =>
      if first = helpWord then .error (helpOn words)
      else if Word.ofText first = .divider then
        match words with
        | [] => .error .noTask
        | word :: _ => .error (if isTaskWord word then .unknownArgument else .unknownTask)
      else .error (refuseFirst first)

end Compliance.CommandLine
