/-!
Names in queries, written between double quotes.

A quote inside a name is written twice, unless it follows a backslash or stands beside another
quote; those are copied as they are. Reading ends a name at the first quote that is not doubled, and
a backslash has no meaning to it, so that a name comes back as itself only if none of its quotes is
copied.
-/

namespace Compliance.Sql.Identifier

/-- The inside of a quoted name; `before` is the character before it. -/
def quoteFrom (before : Char) : List Char → List Char
  | [] => []
  | '"' :: '"' :: rest =>
    if before = '\\' then '"' :: quoteFrom before ('"' :: rest) else '"' :: '"' :: quoteFrom '"' rest
  | '"' :: rest =>
    if before = '\\' then '"' :: quoteFrom before rest else '"' :: '"' :: quoteFrom '"' rest
  | c :: rest => c :: quoteFrom c rest

def quoteChars (name : List Char) : List Char := '"' :: quoteFrom '\x00' name ++ ['"']

def quote (name : String) : String := String.ofList (quoteChars name.toList)

def readFrom : List Char → Option (List Char × List Char)
  | [] => none
  | '"' :: '"' :: rest => (readFrom rest).map fun (name, after) => ('"' :: name, after)
  | '"' :: rest => some ([], rest)
  | c :: rest => (readFrom rest).map fun (name, after) => (c :: name, after)

def read? : List Char → Option (List Char × List Char)
  | '"' :: rest => readFrom rest
  | _ => none

end Compliance.Sql.Identifier
