import Compliance.Text.Width

/-!
Tables drawn with plain characters.

Every column is as wide as the widest line in it, cells stand at the left with a blank on either
side, and a cell of several lines makes its row as high. A double rule without joints stands under
the header.
-/

namespace Compliance.Text

def splitLines : List Char → List (List Char)
  | [] => [[]]
  | c :: rest =>
    let lines := splitLines rest
    if c = '\n' then [] :: lines else (c :: lines.headD []) :: lines.tail

def linesOf (s : String) : List String := (splitLines s.toList).map String.ofList

structure Table where
  header : List String
  rows : List (List String)
  deriving DecidableEq, Repr, Inhabited

namespace Table

abbrev Cells := List (List String)

def cellsOf (row : List String) : Cells := row.map linesOf

def cellWidth (lines : List String) : Nat := (lines.map width).foldl max 0

def height (cells : Cells) : Nat := (cells.map List.length).foldl max 0

def widths (header : Cells) (rows : List Cells) : List Nat :=
  rows.foldl (fun widths cells => List.zipWith max widths (cells.map cellWidth)) (header.map cellWidth)

def padded (columns : Nat) (s : String) : String := s ++ "".pushn ' ' (columns - width s)

def rule (edge joint line : Char) (widths : List Nat) : String :=
  let columns := widths.map fun columns => "".pushn line (columns + 2)
  edge.toString ++ joint.toString.intercalate columns ++ edge.toString

def lineOf (widths : List Nat) (cells : Cells) (n : Nat) : String :=
  let texts :=
    List.zipWith (fun columns lines => " " ++ padded columns ((lines[n]?).getD "") ++ " ") widths cells
  "|" ++ "|".intercalate texts ++ "|"

def rowLines (widths : List Nat) (cells : Cells) : List String :=
  (List.range (height cells)).map (lineOf widths cells)

def lines (table : Table) : List String :=
  let header := cellsOf table.header
  let rows := table.rows.map cellsOf
  let widths := widths header rows
  let border := rule '+' '+' '-' widths
  let between := [rule '|' '+' '-' widths]
  [border] ++ rowLines widths header ++ [rule '+' '=' '=' widths]
    ++ between.intercalate (rows.map (rowLines widths)) ++ [border]

def write (table : Table) : String := "\n".intercalate table.lines

end Table

end Compliance.Text
