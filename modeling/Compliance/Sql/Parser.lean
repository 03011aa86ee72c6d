import Compliance.Rule.CompileError
import Compliance.Sql.Select
import Compliance.Sql.Token

/-!
Reading queries from tokens.

Expressions are read by the strength of their operators: `NOT` binds stronger than `AND`, `AND`
stronger than `OR`, a comparison stronger than all of them. A list may end with a comma. Statements
that are no queries are passed over up to their end. Every reader takes tokens and gives back what
it leaves; fuel bounds how deep readers call each other.
-/

namespace Compliance.Sql

structure ReadFault where
  expected : String
  found : String
  deriving DecidableEq, Repr, Inhabited

def ReadFault.message (fault : ReadFault) : String :=
  "Expected: " ++ fault.expected ++ ", found: " ++ fault.found

namespace Parser

def fail {α : Type} (expected : String) (tokens : List Token) : Except ReadFault α :=
  .error ⟨expected, (tokens.head?.map Token.describe).getD "EOF"⟩

def keyword? (keyword : String) : List Token → Option (List Token)
  | token :: rest => if token.isKeyword keyword then some rest else none
  | [] => none

def symbol? (symbol : String) : List Token → Option (List Token)
  | token :: rest => if token = .symbol symbol then some rest else none
  | [] => none

def keyword (keyword : String) (tokens : List Token) : Except ReadFault (List Token) :=
  match keyword? keyword tokens with
  | some rest => .ok rest
  | none => fail keyword tokens

def symbol (symbol : String) (tokens : List Token) : Except ReadFault (List Token) :=
  match symbol? symbol tokens with
  | some rest => .ok rest
  | none => fail symbol tokens

def startsWith (keywords : List String) (tokens : List Token) : Bool :=
  keywords.any fun k => (keyword? k tokens).isSome

def skipKeyword (keywords : List String) (tokens : List Token) : List Token :=
  match tokens with
  | token :: rest => if keywords.any token.isKeyword then rest else tokens
  | [] => []

def reserved : List String :=
  ["WITH", "EXPLAIN", "ANALYZE", "SELECT", "WHERE", "GROUP", "SORT", "HAVING", "ORDER", "TOP",
    "LATERAL", "VIEW", "LIMIT", "OFFSET", "FETCH", "UNION", "EXCEPT", "INTERSECT", "MINUS",
    "CLUSTER", "DISTRIBUTE", "RETURNING", "FROM", "INTO",
    "END", "QUALIFY", "WINDOW", "FOR", "FORMAT", "SETTINGS", "PREWHERE", "ON", "JOIN", "INNER",
    "CROSS", "FULL", "LEFT",
    "RIGHT", "NATURAL", "USING", "OUTER", "SET", "PIVOT", "UNPIVOT", "CONNECT", "START",
    "MATCH_RECOGNIZE", "SEMI",
    "ANTI", "ASOF", "GLOBAL", "TABLESAMPLE", "SAMPLE", "PARTITION", "USE"]

def columnAliases : List String :=
  ["ON", "JOIN", "INNER", "CROSS", "FULL", "LEFT", "RIGHT", "NATURAL", "USING", "OUTER", "SET",
    "PIVOT", "UNPIVOT", "CONNECT", "START", "MATCH_RECOGNIZE", "SEMI", "ANTI", "ASOF", "GLOBAL",
    "TABLESAMPLE", "SAMPLE", "PARTITION", "USE",
    "FOR", "WINDOW", "QUALIFY", "FORMAT", "SETTINGS", "PREWHERE"]

def endsList : List Token → Bool
  | [] => true
  | token :: _ =>
    token = .symbol ")" || token = .symbol ";" || token = .symbol "]" || token = .symbol "\x7d"
      || reserved.any token.isKeyword && !(columnAliases.any token.isKeyword)

def alias? (isReserved : Token → Bool) : List Token → Option (String × List Token)
  | .name s :: rest => some (s, rest)
  | .word s :: rest => if isReserved (.word s) then none else some (s, rest)
  | _ => none

def readAlias (isReserved : Token → Bool) (tokens : List Token) :
    Except ReadFault (Option String × List Token) :=
  match keyword? "AS" tokens with
  | some rest =>
    match rest with
    | .name s :: rest | .word s :: rest | .text s :: rest => .ok (some s, rest)
    | rest => fail "an identifier after AS" rest
  | none =>
    match tokens with
    | .text s :: rest => .ok (some s, rest)
    | tokens =>
      match alias? isReserved tokens with
      | some (s, rest) => .ok (some s, rest)
      | none => .ok (none, tokens)

def isColumnReserved (token : Token) : Bool :=
  reserved.any token.isKeyword && !(columnAliases.any token.isKeyword)

def isTableReserved (token : Token) : Bool := reserved.any token.isKeyword

def readPath : List Token → Except ReadFault (List String × List Token)
  | .name s :: .symbol "." :: rest | .word s :: .symbol "." :: rest => do
    let (path, rest) ← readPath rest
    return (s :: path, rest)
  | .name s :: rest | .word s :: rest => .ok ([s], rest)
  | tokens => fail "identifier" tokens

def skipParens (depth : Nat) : List Token → Except ReadFault (List Token)
  | [] => fail ")" []
  | .symbol s :: rest =>
    if s = "(" then skipParens (depth + 1) rest
    else if s = ")" then (if depth = 0 then .ok rest else skipParens (depth - 1) rest)
    else skipParens depth rest
  | _ :: rest => skipParens depth rest

def readType : List Token → Except ReadFault (String × List Token)
  | .word s :: rest => do
    let rest := match keyword? "PRECISION" rest <|> keyword? "VARYING" rest with
      | some rest => rest
      | none => rest
    match symbol? "(" rest with
    | some rest => return (s, ← skipParens 0 rest)
    | none => return (s, rest)
  | .name s :: rest => .ok (s, rest)
  | tokens => fail "a data type name" tokens

def readTableAlias (tokens : List Token) : Except ReadFault (Option String × List Token) := do
  match ← readAlias isTableReserved tokens with
  | (some asName, .symbol "(" :: rest) => return (some asName, ← skipParens 0 rest)
  | aliased => return aliased

inductive Strength
  | lowest | or | and | not | is | like | comparison | pipe | caret | ampersand | xor | sum
    | product | cast
  deriving DecidableEq, Repr, Inhabited

def Strength.rank : Strength → Nat
  | lowest => 0
  | or => 1
  | and => 2
  | not => 3
  | is => 4
  | like => 5
  | comparison => 6
  | pipe => 7
  | caret => 8
  | ampersand => 9
  | xor => 10
  | sum => 11
  | product => 12
  | cast => 13

inductive Infix
  | and | or
  | compare (operator : Rule.Operator)
  | binary
  deriving DecidableEq, Repr, Inhabited

def infixSymbol? (s : String) : Option (Strength × Infix) :=
  match Rule.Operator.ofSymbol? s with
  | some operator => some (.comparison, .compare operator)
  | none =>
    match s with
    | "+" | "-" => some (.sum, .binary)
    | "*" | "/" | "%" | "||" => some (.product, .binary)
    | "|" => some (.pipe, .binary)
    | "^" | "<<" | ">>" => some (.caret, .binary)
    | "~" | "->" => some (.comparison, .binary)
    | "&" => some (.ampersand, .binary)
    | _ => none

def infix? : List Token → Option (Strength × Infix × List Token)
  | .symbol s :: rest => (infixSymbol? s).map fun (strength, op) => (strength, op, rest)
  | .word s :: rest =>
    let token := Token.word s
    if token.isKeyword "AND" then some (.and, .and, rest)
    else if token.isKeyword "OR" then some (.or, .or, rest)
    else if token.isKeyword "XOR" then some (.xor, .binary, rest)
    else if token.isKeyword "DIV" then some (.product, .binary, rest)
    else none
  | _ => none

def Infix.apply : Infix → Expr → Expr → Expr
  | .and, a, b => .and a b
  | .or, a, b => .or a b
  | .compare operator, a, b => .compare operator a b
  | .binary, a, b => .other [a, b]

def typeNames : List String := ["DATE", "TIME", "TIMESTAMP", "TIMESTAMPTZ", "DATETIME", "UUID", "JSON"]

def ownForms : List String := ["EXTRACT", "POSITION", "SUBSTRING", "TRIM", "OVERLAY"]

def starOptions : List String := ["EXCLUDE", "EXCEPT", "REPLACE", "RENAME"]

def skipStar (tokens : List Token) : Except ReadFault (List Token) :=
  match tokens with
  | token :: .symbol "(" :: rest =>
    if starOptions.any token.isKeyword then skipParens 0 rest else .ok tokens
  | _ => .ok tokens

def skipTop (tokens : List Token) : Except ReadFault (List Token) :=
  match keyword? "TOP" tokens with
  | some (.symbol "(" :: rest) => skipParens 0 rest
  | some (.number _ :: rest) => .ok rest
  | some rest => fail "literal int" rest
  | none => .ok tokens

def skipInto (tokens : List Token) : Except ReadFault (Bool × List Token) :=
  match keyword? "INTO" tokens with
  | some rest =>
    (readPath (skipKeyword ["TABLE"] (skipKeyword ["TEMPORARY", "TEMP", "UNLOGGED"] rest))).map
      fun (_, rest) => (true, rest)
  | none => .ok (false, tokens)

def skipStatement (depth : Nat) : List Token → List Token
  | [] => []
  | token :: rest =>
    if depth = 0 ∧ (token = .symbol ";" ∨ token = .symbol ")") then token :: rest
    else if token = .symbol "(" then skipStatement (depth + 1) rest
    else if token = .symbol ")" then skipStatement (depth - 1) rest
    else skipStatement depth rest

def changes : List String := ["INSERT", "UPDATE", "DELETE", "MERGE"]

def beginsQuery (tokens : List Token) : Bool := startsWith ["SELECT", "WITH", "VALUES", "FROM"] tokens

mutual

def readExpr : Nat → Strength → List Token → Except ReadFault (Expr × List Token)
  | 0, _, tokens => fail "less nesting" tokens
  | fuel + 1, strength, tokens => do
    let (first, rest) ← readPrefix fuel tokens
    readInfix fuel strength first rest

def readInfix : Nat → Strength → Expr → List Token → Except ReadFault (Expr × List Token)
  | 0, _, _, tokens => fail "less nesting" tokens
  | fuel + 1, strength, left, tokens =>
    match infix? tokens with
    | some (own, op, rest) =>
      if own.rank ≤ strength.rank then .ok (left, tokens)
      else do
        let (right, rest) ← readExpr fuel own rest
        readInfix fuel strength (op.apply left right) rest
    | none =>
      match keyword? "IS" tokens with
      | some rest =>
        if Strength.is.rank ≤ strength.rank then .ok (left, tokens)
        else
          let (negated, rest) := match keyword? "NOT" rest with
            | some rest => (true, rest)
            | none => (false, rest)
          match keyword? "NULL" rest with
          | some rest =>
            readInfix fuel strength (if negated then .not (.isNull left) else .isNull left) rest
          | none =>
            if startsWith ["TRUE", "FALSE", "UNKNOWN"] rest then
              readInfix fuel strength (.other [left]) (rest.drop 1)
            else do
              let rest ← keyword "FROM" (← keyword "DISTINCT" rest)
              let (right, rest) ← readExpr fuel .is rest
              readInfix fuel strength (.other [left, right]) rest
      | none =>
        match symbol? "::" tokens with
        | some rest => do
          let (type, rest) ← readType rest
          readInfix fuel strength (.cast left type) rest
        | none =>
          match symbol? "[" tokens with
          | some rest => do
            let (index, rest) ← readExpr fuel .lowest rest
            readInfix fuel strength (.other [left, index]) (← symbol "]" rest)
          | none => readRange fuel strength left tokens

def readRange : Nat → Strength → Expr → List Token → Except ReadFault (Expr × List Token)
  | 0, _, _, tokens => fail "less nesting" tokens
  | fuel + 1, strength, left, tokens =>
    let rest := (keyword? "NOT" tokens).getD tokens
    if startsWith ["BETWEEN"] rest then
      if Strength.comparison.rank ≤ strength.rank then .ok (left, tokens)
      else do
        let (low, rest) ← readExpr fuel .comparison (rest.drop 1)
        let rest ← keyword "AND" rest
        let (high, rest) ← readExpr fuel .comparison rest
        readInfix fuel strength (.other [left, low, high]) rest
    else if startsWith ["IN"] rest then
      if Strength.comparison.rank ≤ strength.rank then .ok (left, tokens)
      else do
        let rest ← symbol "(" (rest.drop 1)
        if beginsQuery rest then
          let (_, rest) ← readQuery fuel rest
          let rest ← symbol ")" rest
          readInfix fuel strength (.other [left]) rest
        else if (symbol? ")" rest).isSome then readInfix fuel strength (.other [left]) (rest.drop 1)
        else
          let (choices, rest) ← readList fuel rest
          let rest ← symbol ")" rest
          readInfix fuel strength (.other (left :: choices)) rest
    else if startsWith ["LIKE", "ILIKE", "RLIKE", "REGEXP"] rest then
      if Strength.like.rank ≤ strength.rank then .ok (left, tokens)
      else do
        let (right, rest) ← readExpr fuel .like (rest.drop 1)
        match keyword? "ESCAPE" rest with
        | some (.text _ :: rest) => readInfix fuel strength (.other [left, right]) rest
        | some rest => fail "literal string" rest
        | none => readInfix fuel strength (.other [left, right]) rest
    else .ok (left, tokens)

def readList : Nat → List Token → Except ReadFault (List Expr × List Token)
  | 0, tokens => fail "less nesting" tokens
  | fuel + 1, tokens => do
    let (first, rest) ← readExpr fuel .lowest tokens
    match symbol? "," rest with
    | some rest =>
      if endsList rest then return ([first], rest)
      else
        let (others, rest) ← readList fuel rest
        return (first :: others, rest)
    | none => return ([first], rest)

def readPrefix : Nat → List Token → Except ReadFault (Expr × List Token)
  | 0, tokens => fail "less nesting" tokens
  | fuel + 1, tokens =>
    match tokens with
    | .placeholder index :: rest => .ok (.placeholder index, rest)
    | .text s :: rest => .ok (.text s, rest)
    | .number digits :: rest => .ok (.number digits, rest)
    | .symbol "(" :: rest => do
      if beginsQuery rest then
        let (_, rest) ← readQuery fuel rest
        return (.other [], ← symbol ")" rest)
      else
        let (inner, rest) ← readList fuel rest
        let rest ← symbol ")" rest
        match inner with
        | [e] => return (e, rest)
        | parts => return (.other parts, rest)
    | .symbol "[" :: .symbol "]" :: rest => .ok (.other [], rest)
    | .symbol "[" :: rest => do
      let (parts, rest) ← readList fuel rest
      return (.other parts, ← symbol "]" rest)
    | .symbol "$" :: .number _ :: rest | .symbol "$" :: .word _ :: rest => .ok (.other [], rest)
    | .symbol ":" :: .number _ :: rest | .symbol ":" :: .word _ :: rest => .ok (.other [], rest)
    | .symbol "-" :: rest | .symbol "+" :: rest => do
      let (e, rest) ← readExpr fuel .product rest
      return (.other [e], rest)
    | .name _ :: _ => readReference fuel tokens
    | .word w :: rest =>
      let token := Token.word w
      if token.isKeyword "NOT" then do
        let (e, rest) ← readExpr fuel .not rest
        return (.not e, rest)
      else if token.isKeyword "NULL" then .ok (.null, rest)
      else if token.isKeyword "TRUE" then .ok (.boolean true, rest)
      else if token.isKeyword "FALSE" then .ok (.boolean false, rest)
      else if token.isKeyword "CASE" then readCase fuel rest
      else if (token.isKeyword "CAST" || token.isKeyword "TRY_CAST") && (symbol? "(" rest).isSome then do
        let (e, rest) ← readExpr fuel .lowest (rest.drop 1)
        let rest ← keyword "AS" rest
        let (type, rest) ← readType rest
        return (.cast e type, ← symbol ")" rest)
      else if token.isKeyword "EXISTS" then do
        let (_, rest) ← readQuery fuel (← symbol "(" rest)
        return (.other [], ← symbol ")" rest)
      else if token.isKeyword "INTERVAL" then do
        let (e, rest) ← readExpr fuel .product rest
        return (.other [e], skipKeyword ["DAY", "HOUR", "MINUTE", "SECOND", "MONTH", "YEAR",
          "WEEK"] rest)
      else
        match rest with
        | .text _ :: rest =>
          if typeNames.any token.isKeyword then .ok (.other [], rest) else readReference fuel tokens
        | .symbol "(" :: rest =>
          if ownForms.any token.isKeyword then (skipParens 0 rest).map fun rest => (.other [], rest)
          else readReference fuel tokens
        | _ => readReference fuel tokens
    | tokens => fail "an expression" tokens

def readReference : Nat → List Token → Except ReadFault (Expr × List Token)
  | 0, tokens => fail "less nesting" tokens
  | fuel + 1, tokens => do
    let (path, rest) ← readPath tokens
    match symbol? "(" rest with
    | none => return (.column path, rest)
    | some rest =>
      let function := path.getLast?.getD ""
      let rest := skipKeyword ["DISTINCT", "ALL"] rest
      match symbol? ")" rest with
      | some rest => readOver fuel (.call function []) rest
      | none =>
        match rest with
        | .symbol "*" :: rest => readOver fuel (.call function []) (← symbol ")" rest)
        | rest =>
          let (arguments, rest) ← readList fuel rest
          readOver fuel (.call function arguments) (← symbol ")" rest)

def readOver : Nat → Expr → List Token → Except ReadFault (Expr × List Token)
  | 0, _, tokens => fail "less nesting" tokens
  | _ + 1, e, tokens =>
    match keyword? "OVER" tokens with
    | none => .ok (e, tokens)
    | some (.word _ :: rest) => .ok (.other [e], rest)
    | some rest => do
      let rest ← symbol "(" rest
      return (.other [e], ← skipParens 0 rest)

def readCase : Nat → List Token → Except ReadFault (Expr × List Token)
  | 0, tokens => fail "less nesting" tokens
  | fuel + 1, tokens => do
    if startsWith ["END"] tokens then return (.other [], tokens.drop 1)
    else
      let tokens := skipKeyword ["WHEN", "THEN", "ELSE"] tokens
      let (e, rest) ← readExpr fuel .lowest tokens
      let (more, rest) ← readCase fuel rest
      return (.other [e, more], rest)

def readItems : Nat → List Token → Except ReadFault (List Item × List Token)
  | 0, tokens => fail "less nesting" tokens
  | fuel + 1, tokens => do
    let (item, rest) ← readItem fuel tokens
    match symbol? "," rest with
    | some rest =>
      if endsList rest then return ([item], rest)
      else
        let (others, rest) ← readItems fuel rest
        return (item :: others, rest)
    | none => return ([item], rest)

def readItem : Nat → List Token → Except ReadFault (Item × List Token)
  | 0, tokens => fail "less nesting" tokens
  | fuel + 1, tokens =>
    match tokens with
    | .symbol "*" :: rest => (skipStar rest).map fun rest => (⟨.other [], none⟩, rest)
    | .name _ :: .symbol "." :: .symbol "*" :: rest | .word _ :: .symbol "." :: .symbol "*" :: rest =>
      (skipStar rest).map fun rest => (⟨.other [], none⟩, rest)
    | tokens => do
      if startsWith ["FROM"] tokens then fail "an expression" tokens
      let (value, rest) ← readExpr fuel .lowest tokens
      let (asName, rest) ← readAlias isColumnReserved rest
      return (⟨value, asName⟩, rest)

def readSource : Nat → List Token → Except ReadFault (Option (List String) × List Token)
  | 0, tokens => fail "less nesting" tokens
  | fuel + 1, tokens => do
    match symbol? "(" tokens with
    | some rest =>
      let (_, rest) ← if beginsQuery rest then readQuery fuel rest >>= fun (_, rest) => pure (none, rest)
        else readSources fuel rest
      let (_, rest) ← readTableAlias (← symbol ")" rest)
      return (none, rest)
    | none =>
      let (path, rest) ← readPath tokens
      match symbol? "(" rest with
      | some rest =>
        let (_, rest) ← readTableAlias (← skipParens 0 rest)
        return (none, rest)
      | none =>
        let (asName, rest) ← readTableAlias rest
        return (if asName.isNone then some path else none, rest)

def readSources : Nat → List Token → Except ReadFault (Option (List (List String)) × List Token)
  | 0, tokens => fail "less nesting" tokens
  | fuel + 1, tokens => do
    let (source, rest) ← readSource fuel tokens
    match symbol? "," rest with
    | some rest =>
      if endsList rest then return (none, rest)
      else
        let (others, rest) ← readSources fuel rest
        return (do return (← source) :: (← others), rest)
    | none =>
      if startsWith ["JOIN", "INNER", "CROSS", "LEFT", "RIGHT", "FULL", "NATURAL"] rest then
        let rest := skipKeyword ["NATURAL"] rest
        let rest := skipKeyword ["INNER", "CROSS", "LEFT", "RIGHT", "FULL"] rest
        let rest := skipKeyword ["OUTER"] rest
        let (_, rest) ← readSource fuel (← keyword "JOIN" rest)
        let (_, rest) ← readJoinCondition fuel rest
        return (none, rest)
      else return (source.map ([·]), rest)

def readJoinCondition : Nat → List Token → Except ReadFault (Unit × List Token)
  | 0, tokens => fail "less nesting" tokens
  | fuel + 1, tokens => do
    let rest ← match keyword? "ON" tokens, keyword? "USING" tokens with
      | some rest, _ => (readExpr fuel .lowest rest).map (·.2)
      | none, some rest => do skipParens 0 (← symbol "(" rest)
      | none, none => pure tokens
    if startsWith ["JOIN", "INNER", "CROSS", "LEFT", "RIGHT", "FULL", "NATURAL"] rest then
      let rest := skipKeyword ["NATURAL"] rest
      let rest := skipKeyword ["INNER", "CROSS", "LEFT", "RIGHT", "FULL"] rest
      let rest := skipKeyword ["OUTER"] rest
      let (_, rest) ← readSource fuel (← keyword "JOIN" rest)
      readJoinCondition fuel rest
    else return ((), rest)

def readGrouping : Nat → List Token → Except ReadFault (Bool × List Token)
  | 0, tokens => fail "less nesting" tokens
  | fuel + 1, tokens => do
    match keyword? "GROUP" tokens with
    | some rest =>
      let (_, rest) ← readList fuel (← keyword "BY" rest)
      let (_, rest) ← readGrouping fuel rest
      return (true, rest)
    | none =>
      match keyword? "HAVING" tokens <|> keyword? "QUALIFY" tokens with
      | some rest =>
        let (_, rest) ← readExpr fuel .lowest rest
        let (_, rest) ← readGrouping fuel rest
        return (true, rest)
      | none => return (false, tokens)

def readSelect : Nat → List Token → Except ReadFault (Select × List Token)
  | 0, tokens => fail "less nesting" tokens
  | fuel + 1, tokens => do
    let distinct := startsWith ["DISTINCT"] tokens
    let tokens := skipKeyword ["DISTINCT", "ALL"] tokens
    let tokens ← match distinct, keyword? "ON" tokens with
      | true, some rest => do skipParens 0 (← symbol "(" rest)
      | _, _ => pure tokens
    let cut := startsWith ["TOP"] tokens
    let tokens ← skipTop tokens
    let (items, rest) ← if startsWith ["FROM"] tokens then pure ([], tokens) else readItems fuel tokens
    let (stored, rest) ← skipInto rest
    let (source, rest) ← match keyword? "FROM" rest with
      | some rest => (readSources fuel rest).map fun (source, rest) => (some source, rest)
      | none => pure (none, rest)
    let (filter, rest) ← match keyword? "WHERE" rest with
      | some rest => (readExpr fuel .lowest rest).map fun (e, rest) => (some e, rest)
      | none => pure (none, rest)
    let (grouped, rest) ← readGrouping fuel rest
    let tables := (source.bind id).getD []
    let plain := !distinct && !cut && !stored && !grouped && tables ≠ []
    return (⟨items, tables, filter, plain⟩, rest)

def readValues : Nat → List Token → Except ReadFault (Unit × List Token)
  | 0, tokens => fail "less nesting" tokens
  | fuel + 1, tokens => do
    let rest ← symbol "(" tokens
    let rest ← if (symbol? ")" rest).isSome then pure rest else (readList fuel rest).map (·.2)
    let rest ← symbol ")" rest
    match symbol? "," rest with
    | some rest => if endsList rest then return ((), rest) else readValues fuel rest
    | none => return ((), rest)

def readBody : Nat → List Token → Except ReadFault (Body × List Token)
  | 0, tokens => fail "less nesting" tokens
  | fuel + 1, tokens => do
    let (first, rest) ← (match tokens with
      | .symbol "(" :: rest => do
        let (_, rest) ← readQuery fuel rest
        return (Body.nested, ← symbol ")" rest)
      | tokens =>
        match keyword? "SELECT" tokens with
        | some rest => (readSelect fuel rest).map fun (s, rest) => (Body.select s, rest)
        | none =>
          match keyword? "VALUES" tokens with
          | some rest => (readValues fuel rest).map fun (_, rest) => (Body.values, rest)
          | none =>
            match keyword? "FROM" tokens with
            | some rest => do
              let (_, rest) ← readSources fuel rest
              match keyword? "SELECT" rest with
              | some rest =>
                (readSelect fuel rest).map fun (s, rest) => (Body.select { s with plain := false }, rest)
              | none => return (Body.select ⟨[], [], none, false⟩, rest)
            | none =>
              match keyword? "TABLE" tokens with
              | some rest => do
                let (_, rest) ← readPath rest
                return (Body.table, rest)
              | none =>
                fail "SELECT, VALUES, or a subquery in the query body" tokens : Except ReadFault
                  (Body × List Token))
    if startsWith ["UNION", "EXCEPT", "INTERSECT", "MINUS"] rest then
      let rest := skipKeyword ["ALL", "DISTINCT"] (rest.drop 1)
      let (_, rest) ← readBody fuel rest
      return (.setOperation, rest)
    else return (first, rest)

def readNamed : Nat → List Token → Except ReadFault (Unit × List Token)
  | 0, tokens => fail "less nesting" tokens
  | fuel + 1, tokens => do
    let (_, rest) ← match tokens with
      | .name s :: rest | .word s :: rest => .ok (s, rest)
      | tokens => fail "identifier" tokens
    let rest ← match symbol? "(" rest with
      | some rest => skipParens 0 rest
      | none => pure rest
    let rest := skipKeyword ["MATERIALIZED"] (skipKeyword ["NOT"] (← keyword "AS" rest))
    let (_, rest) ← readQuery fuel (← symbol "(" rest)
    let rest ← symbol ")" rest
    match symbol? "," rest with
    | some rest => readNamed fuel rest
    | none => return ((), rest)

def readTail : Nat → List Token → Except ReadFault ((Option Expr × Bool) × List Token)
  | 0, tokens => fail "less nesting" tokens
  | fuel + 1, tokens => do
    match keyword? "LIMIT" tokens with
    | some rest =>
      let (e, rest) ← if startsWith ["ALL"] rest then pure (.other [], rest.drop 1)
        else readExpr fuel .lowest rest
      let (second, rest) ← match symbol? "," rest with
        | some rest => (readExpr fuel .lowest rest).map fun (_, rest) => (true, rest)
        | none => pure (false, rest)
      let ((_, others), rest) ← readTail fuel rest
      return ((some e, second || others), rest)
    | none =>
      match keyword? "ORDER" tokens with
      | some rest =>
        let rest ← readOrder fuel (← keyword "BY" rest)
        let ((limit, _), rest) ← readTail fuel rest.2
        return ((limit, true), rest)
      | none =>
        match keyword? "OFFSET" tokens with
        | some rest =>
          let (_, rest) ← readExpr fuel .lowest rest
          let ((limit, _), rest) ← readTail fuel (skipKeyword ["ROW", "ROWS"] rest)
          return ((limit, true), rest)
        | none =>
          match keyword? "FETCH" tokens with
          | some rest =>
            let (_, rest) ← readExpr fuel .lowest (skipKeyword ["FIRST", "NEXT"] rest)
            let rest ← keyword "ONLY" (skipKeyword ["ROW", "ROWS"] rest)
            let ((limit, _), rest) ← readTail fuel rest
            return ((limit, true), rest)
          | none =>
            match keyword? "FOR" tokens with
            | some rest =>
              let rest ← match keyword? "UPDATE" rest with
                | some rest => pure rest
                | none => keyword "SHARE" rest
              let rest := skipKeyword ["LOCKED"] (skipKeyword ["NOWAIT", "SKIP"] rest)
              let ((limit, _), rest) ← readTail fuel rest
              return ((limit, true), rest)
            | none => return ((none, false), tokens)

def readOrder : Nat → List Token → Except ReadFault (Unit × List Token)
  | 0, tokens => fail "less nesting" tokens
  | fuel + 1, tokens => do
    let (_, rest) ← readExpr fuel .lowest tokens
    let rest := skipKeyword ["ASC", "DESC"] rest
    let rest ← match keyword? "NULLS" rest with
      | some rest => pure (skipKeyword ["FIRST", "LAST"] rest)
      | none => pure rest
    match symbol? "," rest with
    | some rest => if endsList rest then return ((), rest) else readOrder fuel rest
    | none => return ((), rest)

def readQuery : Nat → List Token → Except ReadFault (Query × List Token)
  | 0, tokens => fail "less nesting" tokens
  | fuel + 1, tokens => do
    let (named, rest) ← match keyword? "WITH" tokens with
      | some rest => (readNamed fuel (skipKeyword ["RECURSIVE"] rest)).map fun (_, rest) => (true, rest)
      | none => pure (false, tokens)
    if startsWith changes rest then return (⟨.change, none, false⟩, skipStatement 0 rest)
    let (body, rest) ← readBody fuel rest
    let ((limit, others), rest) ← readTail fuel rest
    return (⟨body, limit, !named && !others⟩, rest)

end

def otherStatements : List String :=
  ["DELETE", "DROP", "BEGIN", "CREATE", "INSERT", "UPDATE", "ALTER", "COMMIT", "ROLLBACK",
    "TRUNCATE", "SET", "SHOW", "EXPLAIN", "DESCRIBE", "DESC", "ANALYZE", "USE", "GRANT", "REVOKE",
    "COPY", "MERGE", "CALL", "EXECUTE", "PREPARE",
    "DEALLOCATE", "DECLARE", "FETCH", "CLOSE", "START", "END", "SAVEPOINT", "RELEASE", "PRAGMA",
    "ATTACH", "DETACH",
    "INSTALL", "LOAD", "VACUUM", "KILL", "MSCK", "CACHE", "UNCACHE", "COMMENT", "OPTIMIZE",
    "REPLACE", "LISTEN", "NOTIFY",
    "DISCARD", "ASSERT", "FLUSH", "RESET", "RENAME", "PRINT", "RETURN", "RAISE", "EXPORT", "UNLOAD",
    "OPEN", "DENY", "EXEC"]

def bareStatements : List String :=
  ["BEGIN", "COMMIT", "ROLLBACK", "END", "SHOW", "VACUUM", "RETURN", "RAISE"]

def readStatement (fuel : Nat) (tokens : List Token) : Except ReadFault (Statement × List Token) :=
  if beginsQuery tokens ∨ (symbol? "(" tokens).isSome then
    (readQuery fuel tokens).map fun (q, rest) => (.query q, rest)
  else if startsWith otherStatements tokens then
    match skipStatement 0 (tokens.drop 1) with
    | rest =>
      if rest.length + 1 = tokens.length ∧ !startsWith bareStatements tokens
        then fail "more of the statement" rest
      else .ok (.other, rest)
  else fail "an SQL statement" tokens

def readStatements (depth : Nat) : Nat → List Token → Except ReadFault (List Statement)
  | 0, tokens => fail "less nesting" tokens
  | fuel + 1, tokens =>
    match tokens with
    | [] => .ok []
    | .symbol ";" :: rest => readStatements depth fuel rest
    | tokens => do
      let (statement, rest) ← readStatement depth tokens
      match rest with
      | [] => return [statement]
      | .symbol ";" :: rest => return statement :: (← readStatements depth fuel rest)
      | rest => fail "end of statement" rest

end Parser

def fuelFor (tokens : List Token) : Nat := 12 * (tokens.length + 1)

inductive SqlFault
  | unfinished (what : Token.Reader.Unfinished)
  | unreadable (fault : ReadFault)
  deriving DecidableEq, Repr, Inhabited

def SqlFault.message : SqlFault → String
  | unfinished .name => "Expected close delimiter '\"' before EOF."
  | unfinished .text => "Unterminated string literal"
  | unfinished .comment => "Unexpected EOF while in a multi-line comment"
  | unreadable fault => fault.message

def readStatements (text : String) : Except SqlFault (List Statement) := do
  let tokens ← (Token.read text.toList).mapError .unfinished
  (Parser.readStatements (fuelFor tokens) (tokens.length + 1) tokens).mapError .unreadable

/-! The structural check of a query text: it has to be one statement, and that a plain select. -/

open Rule (QueryFault)

def readSelect (text : String) : Except QueryFault Query := do
  match ← (readStatements text).mapError fun fault => .unreadable fault.message with
  | [.query q] =>
    match q.body with
    | .select _ => return q
    | _ => throw (.notSelect text)
  | [.other] => throw (.notQuery text)
  | statements => throw (.notOneStatement statements.length)

def checkSelect (text : String) : Except QueryFault Unit := do
  let _ ← readSelect text

end Compliance.Sql
