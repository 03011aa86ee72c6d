import Compliance.CommandLine.Command
import Compliance.CommandLine.Outcome
import Compliance.Store.Tables
import Compliance.Store.Rules

/-!
A project on the machine that the program runs on: its settings and its store.

What the program asks of the machine is a `Host`, over any monad, so that the commands are the same
functions whether the files are real or only supposed.
-/

namespace Compliance.CommandLine

open Scan (Settings)
open Scan.Settings (FileState)

namespace FileFault

def absent : String := "No such file or directory (os error 2)"

def isDirectory : String := "Is a directory (os error 21)"

end FileFault

structure Host (m : Type → Type) where
  environment : String → m (Option String)
  fileAt : String → m FileState
  writeFile : String → String → m (Option String)
  openStore : String → m (Except String Store)
  keepStore : String → Store → m Unit
  now : m Time.Timestamp
  newIds : m (Nat → String)

def joinPath (dir path : String) : String :=
  if path.toList.head? = some '/' then path
  else if dir = "" || dir.toList.getLast? = some '/' then dir ++ path
  else dir ++ "/" ++ path

def inMemory : String := ":memory:"

def resolveDatabase (projectDir path : String) : String :=
  if path = inMemory then path else joinPath projectDir path

structure Project where
  dir : String
  settings : Settings
  databasePath : String
  store : Store

abbrev Attempt (m : Type → Type) : Type → Type := ExceptT Interruption m

section

variable {m : Type → Type} [Monad m]

def orInterrupt {α : Type} (attempt : Option String) (result : m (Except Failure α)) : Attempt m α :=
  ExceptT.mk do return (← result).mapError (.failure attempt)

def readAll {α : Type} (read : String → m α) (names : List String) : m (List (String × α)) :=
  names.mapM fun name => do return (name, ← read name)

def loadSettings (host : Host m) (dir : String) : m (Except Failure Settings) := do
  let files ← readAll (fun name => host.fileAt (joinPath dir name)) Settings.fileNames
  let given ← readAll host.environment Settings.variableNames
  return Settings.load (fun name => (files.lookup name).getD .absent) (joinPath dir)
    (fun name => (given.lookup name).join)

def openBootstrapped (host : Host m) (path : String) : m (Except Failure Store) := do
  if path = inMemory then return Store.asFailure Store.empty.bootstrap
  match ← host.openStore path with
  | .error reason => return .error (.database reason)
  | .ok store =>
    let result := Store.asFailure store.bootstrap
    if let .ok store := result then host.keepStore path store
    return result

namespace Project

def keep (project : Project) (host : Host m) (store : Store) : Attempt m Unit := do
  if project.databasePath ≠ inMemory then host.keepStore project.databasePath store

def openAt (host : Host m) (place : Place) : Attempt m Project := do
  let dir := place.projectDir
  let settings ← orInterrupt (some ("Failed to load scan configuration from " ++ Text.quotedPath dir))
    (loadSettings host dir)
  let settings := { settings with databasePath := place.databasePath.getD settings.databasePath }
  let path := resolveDatabase dir settings.databasePath
  let store ← orInterrupt (some ("Failed to open DuckDB at " ++ path)) (openBootstrapped host path)
  return ⟨dir, settings, path, store⟩

end Project

end

end Compliance.CommandLine
