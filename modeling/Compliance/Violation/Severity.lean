import Compliance.Text.Lowercase

/-!
How grave a violation is, and whether it is still open.
-/

namespace Compliance.Violation

inductive Severity
  | low | medium | high | critical
  deriving DecidableEq, Repr

instance : Inhabited Severity := ⟨.high⟩

namespace Severity

def all : List Severity := [low, medium, high, critical]

def name : Severity → String
  | low => "low"
  | medium => "medium"
  | high => "high"
  | critical => "critical"

def variants : List (String × Severity) := all.map fun s => (s.name, s)

def ofName? (text : String) : Option Severity := variants.lookup (Text.lowercase text)

def unknownMessage (text : String) : String := "Unknown severity: " ++ text

def rank (s : Severity) : Nat := all.idxOf s

end Severity

inductive Status
  | opened | resolved
  deriving DecidableEq, Repr, Inhabited

namespace Status

def all : List Status := [opened, resolved]

def name : Status → String
  | opened => "open"
  | resolved => "resolved"

def variants : List (String × Status) := all.map fun s => (s.name, s)

def ofName? (text : String) : Option Status := variants.lookup (Text.lowercase text)

def unknownMessage (text : String) : String := "Unknown violation status: " ++ text

end Status

end Compliance.Violation
