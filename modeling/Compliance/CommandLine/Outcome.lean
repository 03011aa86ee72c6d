import Compliance.Scan.Run

/-!
What a run of the program leaves to be seen: an exit code, its output, and what it says beside the
output.

A command that fails tells the failure and what it stems from, each cause on a line of its own, and
the causes are numbered where there are several.
-/

namespace Compliance.CommandLine

structure Outcome where
  exitCode : Nat
  output : String
  remarks : String
  deriving DecidableEq, Repr, Inhabited

inductive Interruption
  | failure (attempt : Option String) (cause : Failure)
  | scan (error : Scan.ScanError)
  deriving DecidableEq, Repr

namespace Interruption

def causeText (number : Option Nat) (cause : String) : String :=
  let (first, indent) := match number with
    | some n => ("".pushn ' ' (5 - (toString n).length) ++ toString n ++ ": ", "       ")
    | none => ("    ", "    ")
  "\n" ++ first ++ ("\n" ++ indent).intercalate (cause.splitOn "\n")

def chainText (failure : String) (causes : List String) : String :=
  let under := match causes with
    | [] => ""
    | [cause] => "\n\nCaused by:" ++ causeText none cause
    | causes =>
      "\n\nCaused by:" ++ String.join (causes.zipIdx.map fun (cause, n) => causeText (some n) cause)
  "Error: " ++ failure ++ under ++ "\n"

def remarks : Interruption → String
  | failure (some attempt) cause => chainText attempt cause.causes
  | failure none cause => chainText cause.message cause.causes.tail
  | scan error =>
    let help := match error.help? with
      | some help => "  help: " ++ help ++ "\n"
      | none => ""
    "\n💥 SCAN ABORTED: " ++ error.code ++ "\n\n  × " ++ error.message ++ "\n" ++ help

def outcome (i : Interruption) : Outcome := ⟨1, "", i.remarks⟩

end Interruption

end Compliance.CommandLine
