import Compliance.Json.Writer

/-!
Values that a rule compares with. They are bound to a query and never become part of its text.
-/

namespace Compliance.Rule

inductive Literal
  | integer (n : Int)
  | real (x : Number.Double)
  | text (s : String)
  | boolean (b : Bool)
  deriving DecidableEq, Repr, Inhabited

namespace Literal

def typeName : Literal → String
  | integer _ => "integer"
  | real _ => "real"
  | text _ => "text"
  | boolean _ => "boolean"

def display : Literal → String
  | integer n => toString n
  | real x => Number.Notation.message.write x
  | text s => Text.quoted s
  | boolean b => if b then "true" else "false"

def toJson : Literal → Json
  | integer n => .int n
  | real x => if x.isFinite then .real x else .null
  | text s => .text s
  | boolean b => .bool b

end Literal

end Compliance.Rule
