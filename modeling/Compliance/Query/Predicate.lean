import Compliance.Rule.Literal
import Compliance.Rule.Operator
import Compliance.Sql.Identifier

/-!
Conditions that a violating row fulfils.

A condition is written with a placeholder for its literal, which is bound apart from the text.
-/

namespace Compliance.Query

open Rule (Operator Literal)

inductive Predicate
  | compare (column : String) (operator : Operator) (value : Literal)
  | blank (column : String)
  | daysExceed (start finish : String) (days : Int)
  | notMatching (column pattern : String)
  deriving DecidableEq, Repr, Inhabited

def asText (column : String) : String := "CAST(" ++ column ++ " AS VARCHAR)"

namespace Predicate

def text : Predicate → String
  | compare column operator _ => Sql.Identifier.quote column ++ " " ++ operator.symbol ++ " ?"
  | blank column =>
    let c := Sql.Identifier.quote column
    "(" ++ c ++ " IS NULL OR " ++ asText c ++ " = '')"
  | daysExceed start finish _ =>
    "date_diff('day', " ++ Sql.Identifier.quote start ++ ", " ++ Sql.Identifier.quote finish ++ ") > ?"
  | notMatching column _ => "NOT regexp_matches(" ++ asText (Sql.Identifier.quote column) ++ ", ?)"

def binds : Predicate → List Literal
  | compare _ _ value => [value]
  | blank _ => []
  | daysExceed _ _ days => [.integer days]
  | notMatching _ pattern => [.text pattern]

end Predicate

end Compliance.Query
