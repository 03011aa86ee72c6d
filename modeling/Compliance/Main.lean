import Compliance.CommandLine.Run
import Compliance.Store.File
import Std.Time.DateTime.Timestamp

/-!
The program: a command line, run on the files of this machine.
-/

namespace Compliance.CommandLine

def faultText : IO.Error → String
  | .noFileOrDirectory _ code details | .alreadyExists _ code details | .permissionDenied _ code details
  | .inappropriateType _ code details | .invalidArgument _ code details
    | .resourceExhausted _ code details
  | .noSuchThing _ code details | .otherError code details | .resourceBusy code details =>
    details ++ " (os error " ++ toString code ++ ")"
  | fault => toString fault

def directoryOf (path : String) : String :=
  let dir := (path.toList.reverse.dropWhile (· ≠ '/')).reverse
  if dir = [] then "." else String.ofList dir

/-- Replaces a file through another one beside it, so that it is never seen half written. -/
def replaceFile (path text : String) : IO Unit := do
  let draft := path ++ ".draft"
  IO.FS.writeFile draft text
  try IO.FS.rename draft path
  catch fault =>
    IO.FS.removeFile draft
    throw fault

def readState (path : String) : IO Scan.Settings.FileState := do
  try return .text (← IO.FS.readFile path)
  catch fault =>
    match fault with
    | .noFileOrDirectory .. => return .absent
    | fault => return .unreadable (faultText fault)

def attempt (action : IO Unit) : IO (Option String) := do
  try
    action
    return none
  catch fault => return some (faultText fault)

def openFile (path : String) : IO (Except String Store) := do
  match ← readState path with
  | .unreadable cause => return .error cause
  | .text content =>
    match Store.ofFileText? content with
    | some store => return .ok store
    | none => return .error ("The file \"" ++ path ++ "\" exists, but it is not a valid database file")
  | .absent =>
    match ← attempt (IO.FS.writeFile path "") with
    | some cause => return .error cause
    | none => return .ok .empty

def readClock : IO Time.Timestamp := do
  let nanos := (← Std.Time.Timestamp.now).toNanosecondsSinceUnixEpoch.toInt
  return ⟨nanos / 1000000000, (nanos % 1000000000).toNat⟩

def readSeed : IO Nat := do
  return (← IO.getRandomBytes 16).toList.foldl (fun n byte => 256 * n + byte.toNat) 0

/-! Identities of 122 bits in their usual form: five groups of hexadecimal digits, two of which tell
the form. -/

def hexDigits : Nat → Nat → List Char
  | 0, _ => []
  | width + 1, n => hexDigits width (n / 16) ++ [Nat.digitChar (n % 16)]

def identityText (n : Nat) : String :=
  let low := Nat.pow 2 63 + n % Nat.pow 2 62
  let middle := 4 * Nat.pow 2 12 + n / Nat.pow 2 62 % Nat.pow 2 12
  let high := n / Nat.pow 2 74 % Nat.pow 2 48
  let group (width n : Nat) : String := String.ofList (hexDigits width n)
  "-".intercalate [group 8 (high / Nat.pow 2 16), group 4 high, group 4 middle,
    group 4 (low / Nat.pow 2 48), group 12 low]

/-- An odd number, so that multiples of it below 2 ^ 122 are all different. -/
def identityStride : Nat := 0x9E3779B97F4A7C15F39CC0605CEDC835

def identitiesFrom (seed n : Nat) : String := identityText ((seed + n * identityStride) % Nat.pow 2 122)

def machine : Host IO := {
  environment := fun name => IO.getEnv name
  fileAt := readState
  writeFile := fun path text => attempt do
    IO.FS.createDirAll (directoryOf path)
    replaceFile path text
  openStore := openFile
  keepStore := fun path store => replaceFile path store.fileText
  now := readClock
  newIds := return identitiesFrom (← readSeed) }

end Compliance.CommandLine

open Compliance.CommandLine in
def main (args : List String) : IO UInt32 := do
  match read args with
  | .error e =>
    if e.isQuestion then IO.print e.message else IO.eprint e.message
    return UInt32.ofNat e.exitCode
  | .ok command =>
    let outcome ← run machine command
    IO.print outcome.output
    IO.eprint outcome.remarks
    return UInt32.ofNat outcome.exitCode
