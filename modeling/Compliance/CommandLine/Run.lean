import Compliance.CommandLine.Arguments
import Compliance.CommandLine.Display
import Compliance.CommandLine.Project
import Compliance.Store.Scan

/-!
Running commands.

Every command opens its project, so that even one that is refused later leaves the bookkeeping made.
What a command records is kept before anything is shown.
-/

namespace Compliance.CommandLine

open Scan.Settings (FileState)

def Outcome.shown (output : String) : Outcome := ⟨0, output, ""⟩

section

variable {m : Type → Type} [Monad m]

def readyText (project : Project) : String :=
  "✨ Database ready at " ++ project.settings.databasePath ++ " (" ++ Store.rulesName ++ ", " ++
    Store.violationsName ++ ")\n"

def readRuleFile : FileState → Except Failure (List Rule.Entry)
  | .absent => .error (.file FileFault.absent)
  | .unreadable cause => .error (.file cause)
  | .text content => (Rule.Document.ofText content).mapError .yaml

def load (host : Host m) (project : Project) (file : String) : Attempt m Outcome := do
  let entries ← orInterrupt (some ("Failed to read rule file " ++ Text.quotedPath file))
    (readRuleFile <$> host.fileAt file)
  let newId ← host.newIds
  let now ← host.now
  let (summary, store) ← orInterrupt none
    (pure (Rule.Import.run Store.insertRules newId now entries project.store))
  project.keep host store
  return ⟨0, importText summary, rejectionsText summary.rejected⟩

def scan (host : Host m) (project : Project) (format : Format) : Attempt m Outcome := do
  let newId ← host.newIds
  let started ← host.now
  match project.store.scan newId ⟨started, 0⟩ project.settings ⟨false, none⟩ with
  | .error error => throw (.scan error)
  | .ok (report, store) =>
    project.keep host store
    let report := report.lasting (started.millisUntil (← host.now))
    if let some path := project.settings.reportPath then
      if let some cause := ← host.writeFile (joinPath project.dir path) report.write then
        throw (.failure none (.file cause))
    return .shown (reportText format report)

def perform (host : Host m) (command : Command) : Attempt m Outcome := do
  let project ← Project.openAt host command.place
  match command.task with
  | .init => return .shown (readyText project)
  | .load file => load host project file
  | .rules status format =>
    return .shown (rulesText format (← orInterrupt none (pure (project.store.listRules status))))
  | .compile ruleId format =>
    return .shown (listedText format (← orInterrupt none (pure (project.store.compileRules ruleId))))
  | .scan format => scan host project format
  | .violations filter format =>
    return .shown (viewsText format (← orInterrupt none (pure (project.store.listViolations filter))))

def run (host : Host m) (command : Command) : m Outcome := do
  match ← (perform host command).run with
  | .ok outcome => return outcome
  | .error interruption => return interruption.outcome

end

end Compliance.CommandLine
