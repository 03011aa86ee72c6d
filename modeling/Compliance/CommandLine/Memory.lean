import Compliance.CommandLine.Project

/-!
A machine in memory: files by their paths, and the stores kept beside them.

It is a host for runs that touch no disk. Paths are names from the root, or from the directory that
runs start in; a directory is there as long as something is in it.
-/

namespace Compliance.CommandLine

def pathParts (path : String) : List String := (path.splitOn "/").filter fun part =>
    part ≠ "." && part ≠ ""

def plainPath (path : String) : String :=
  (if path.toList.head? = some '/' then "/" else "") ++ "/".intercalate (pathParts path)

structure Memory where
  files : List (String × String)
  stores : List (String × Store)
  deriving DecidableEq, Repr, Inhabited

namespace Memory

def file? (m : Memory) (path : String) : Option String := m.files.lookup (plainPath path)

def store? (m : Memory) (path : String) : Option Store := m.stores.lookup (plainPath path)

def setFile (m : Memory) (path text : String) : Memory :=
  { m with files := (plainPath path, text) :: m.files }

def setStore (m : Memory) (path : String) (store : Store) : Memory :=
  { m with stores := (plainPath path, store) :: m.stores }

def hasBelow (m : Memory) (parts : List String) : Bool :=
  parts = [] || (m.files.map (·.1) ++ m.stores.map (·.1)).any fun name =>
    let found := pathParts name
    parts.length < found.length && found.take parts.length = parts

def isDirectory (m : Memory) (path : String) : Bool := m.hasBelow (pathParts path)

def hasParent (m : Memory) (path : String) : Bool := m.hasBelow (pathParts path).dropLast

def exists? (m : Memory) (path : String) : Bool :=
  (m.file? path).isSome || (m.store? path).isSome || m.isDirectory path

def fileAt (m : Memory) (path : String) : Scan.Settings.FileState :=
  match m.file? path with
  | some text => .text text
  | none => if m.isDirectory path then .unreadable FileFault.isDirectory else .absent

def openStore (m : Memory) (path : String) : Except String Store :=
  match m.store? path with
  | some store => .ok store
  | none =>
    if m.exists? path || !m.hasParent path then .error ("Cannot open file \"" ++ path ++ "\"")
    else .ok .empty

def host (environment : String → Option String) (now : Time.Timestamp) (newId : Nat → String) :
    Host (StateM Memory) := {
  environment := fun name => return environment name
  fileAt := fun path => return (← get).fileAt path
  writeFile := fun path text => do
    if (← get).isDirectory path then return some FileFault.isDirectory
    modify (·.setFile path text)
    return none
  openStore := fun path => return (← get).openStore path
  keepStore := fun path store => modify (·.setStore path store)
  now := return now
  newIds := return newId }

end Memory

end Compliance.CommandLine
