import Compliance.Time.Duration
import Compliance.Violation.Basic

/-!
How the evaluation of one rule ends.
-/

namespace Compliance.Scan

open Rule (CompileError)

inductive ExecutionError
  | timeout (after : Time.Duration)
  | query (reason : String)
  | cancelled
  | panicked (reason : String)
  deriving DecidableEq, Repr, Inhabited

namespace ExecutionError

def message : ExecutionError → String
  | timeout after => "Query timed out after " ++ after.write
  | query reason => "Query failed: " ++ reason
  | cancelled => "Query cancelled"
  | panicked reason => "Query worker panicked: " ++ reason

def code : ExecutionError → String
  | timeout _ => "vigil::execute::timeout"
  | query _ => "vigil::execute::query"
  | cancelled => "vigil::execute::cancelled"
  | panicked _ => "vigil::execute::worker"

def help? : ExecutionError → Option String
  | query _ => some "The target table or column may have changed since the rule was written."
  | _ => none

end ExecutionError

inductive Outcome
  | matched (candidates : List Violation.Candidate) (truncated : Bool)
  | compileFailed (cause : CompileError)
  | executionFailed (cause : ExecutionError)
  | skipped
  deriving DecidableEq, Repr, Inhabited

namespace Outcome

def label : Outcome → String
  | matched .. => "matched"
  | compileFailed _ => "compile_failed"
  | executionFailed (.timeout _) => "timed_out"
  | executionFailed _ => "execution_failed"
  | skipped => "skipped"

def isFailure : Outcome → Bool
  | compileFailed _ | executionFailed _ => true
  | _ => false

def isSkipped : Outcome → Bool
  | skipped => true
  | _ => false

def candidates : Outcome → List Violation.Candidate
  | matched candidates _ => candidates
  | _ => []

def isTruncated : Outcome → Bool
  | matched _ truncated => truncated
  | _ => false

def error? : Outcome → Option String
  | compileFailed cause => some cause.message
  | executionFailed cause => some cause.message
  | _ => none

end Outcome

structure Evaluation where
  ruleId : String
  ruleName : String
  outcome : Outcome
  deriving DecidableEq, Repr, Inhabited

/-! Running one query against a deadline and a cancellation. At every turn the cancellation is
looked at first, then the answer, then the deadline; the first of them that is there ends the query.
-/

abbrev Answer := Except ExecutionError (List Row)

structure Turn where
  cancelled : Bool
  answer : Option Answer
  expired : Bool

namespace Execution

def poll (deadline : Time.Duration) (turn : Turn) : Option Answer :=
  if turn.cancelled then some (.error .cancelled)
  else turn.answer <|> (if turn.expired then some (.error (.timeout deadline)) else none)

def run (deadline : Time.Duration) (turns : List Turn) : Option Answer := turns.findSome? (poll deadline)

end Execution

/-- What becomes of a rule whose query has ended; the query asked for one row more than `maxRows`. -/
def Outcome.ofAnswer (rule : Rule) (query : Query) (maxRows : Nat) : Answer → Outcome
  | .ok rows =>
    .matched (Violation.Candidate.ofRows rule query (rows.take maxRows)) (maxRows < rows.length)
  | .error .cancelled => .skipped
  | .error error => .executionFailed error

end Compliance.Scan
