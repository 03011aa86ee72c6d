import Compliance.Failure
import Compliance.Rule.Document

/-!
Taking the proposals of a document.

Every record is sorted on its own into the accepted rules or the rejections (`Import.sort`). The
accepted rules are stored together, and nothing is asked of the store where there is none.
-/

namespace Compliance.Rule

structure Rejection where
  index : Nat
  name : Option String
  reason : String
  deriving DecidableEq, Repr, Inhabited

structure ImportSummary where
  accepted : List Rule
  rejected : List Rejection
  deriving DecidableEq, Repr

namespace Import

def judge (entry : Entry) : Except Rejection Proposal :=
  match entry.record with
  | .error fault => .error ⟨entry.index, none, fault.message⟩
  | .ok proposal =>
    match proposal.validate with
    | .ok _ => .ok proposal
    | .error error => .error ⟨entry.index, some proposal.name, error.message⟩

def sortFrom (newId : Nat → String) (createdAt : Time.Timestamp) (taken : Nat) : List Entry →
    ImportSummary
  | [] => ⟨[], []⟩
  | entry :: rest =>
    match judge entry with
    | .ok proposal =>
      let summary := sortFrom newId createdAt (taken + 1) rest
      { summary with accepted := proposal.toRule (newId taken) createdAt :: summary.accepted }
    | .error rejection =>
      let summary := sortFrom newId createdAt taken rest
      { summary with rejected := rejection :: summary.rejected }

def sort (newId : Nat → String) (createdAt : Time.Timestamp) (entries : List Entry) : ImportSummary :=
  sortFrom newId createdAt 0 entries

def run {S : Type} (insert : List Rule → S → Except Failure S) (newId : Nat → String)
    (createdAt : Time.Timestamp) (entries : List Entry) (store : S) :
    Except Failure (ImportSummary × S) := do
  let summary := sort newId createdAt entries
  if summary.accepted.isEmpty then return (summary, store)
  return (summary, ← insert summary.accepted store)

def runOn {S : Type} (insert : List Rule → ExceptT Failure (StateM S) Unit) (newId : Nat → String)
    (createdAt : Time.Timestamp) (entries : List Entry) : ExceptT Failure (StateM S) ImportSummary := do
  let summary := sort newId createdAt entries
  if summary.accepted.isEmpty then return summary
  insert summary.accepted
  return summary

end Import

end Compliance.Rule
