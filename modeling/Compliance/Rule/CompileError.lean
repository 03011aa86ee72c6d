import Compliance.Pattern.Fault

/-!
Why a rule gives no query.

Every cause has its wording (`message`), a code, and for some a line of help. One rule's error
leaves the other rules of a pass alone.
-/

namespace Compliance.Rule

inductive ParameterFault
  | empty
  | wrongKind (wanted found : String)
  | notWholeDays
  | notANumber (text : String)
  | negative
  | pattern (fault : Pattern.Fault)
  | stated (reason : String)
  deriving DecidableEq, Repr, Inhabited

def ParameterFault.message : ParameterFault → String
  | empty => "must not be empty"
  | wrongKind wanted found => "expected " ++ wanted ++ ", got " ++ found
  | notWholeDays => "expected a whole number of days"
  | notANumber text => "'" ++ text ++ "' is not a number"
  | negative => "must not be negative"
  | pattern fault => "regex parse error: " ++ fault.message
  | stated reason => reason

inductive QueryFault
  | noPredicate
  | unreadable (cause : String)
  | notOneStatement (count : Nat)
  | notSelect (found : String)
  | notQuery (found : String)
  | stated (reason : String)
  deriving DecidableEq, Repr, Inhabited

def QueryFault.message : QueryFault → String
  | noPredicate => "a violation query needs at least one predicate"
  | unreadable cause => "sql parser error: " ++ cause
  | notOneStatement count => "expected one statement, found " ++ toString count
  | notSelect found => "expected a SELECT, found " ++ found
  | notQuery found => "expected a query, found " ++ found
  | stated reason => reason

inductive CompileError
  | unsupportedKind (text : String)
  | missingParameter (key : String)
  | invalidParameter (key : String) (fault : ParameterFault)
  | unsupportedOperator (text : String)
  | unknownIdentifier (name : String)
  | malformedQuery (fault : QueryFault)
  deriving DecidableEq, Repr, Inhabited

namespace CompileError

def message : CompileError → String
  | unsupportedKind text => "Unsupported rule type '" ++ text ++ "'"
  | missingParameter key => "Missing parameter '" ++ key ++ "'"
  | invalidParameter key fault => "Invalid parameter '" ++ key ++ "': " ++ fault.message
  | unsupportedOperator text => "Unsupported operator '" ++ text ++ "'"
  | unknownIdentifier name => "Unknown identifier '" ++ name ++ "'"
  | malformedQuery fault => "Generated query failed the structural check: " ++ fault.message

def code : CompileError → String
  | unsupportedKind _ => "vigil::compile::rule_type"
  | missingParameter _ => "vigil::compile::missing_parameter"
  | invalidParameter .. => "vigil::compile::invalid_parameter"
  | unsupportedOperator _ => "vigil::compile::operator"
  | unknownIdentifier _ => "vigil::compile::unknown_identifier"
  | malformedQuery _ => "vigil::compile::malformed_query"

def help? : CompileError → Option String
  | unsupportedKind _ => some "Supported types: threshold, date_difference, not_null, pattern."
  | unsupportedOperator _ => some "Use one of: >, >=, <, <=, =, !="
  | unknownIdentifier _ => some "Tables and columns must exist in the scanned database."
  | _ => none

end CompileError

end Compliance.Rule
