/-!
# Tables

Rows of text in a frame of plus signs, hyphens and bars. A column is as wide as its widest cell, with a blank on both
sides.
-/

namespace QueryGateway.Client.Table

/-- The widths of the columns of rows: each the longest of its cells. -/
def widths : List (List String) → List Nat
  | [] => []
  | [row] => row.map String.length
  | row :: rest => row.zipWith (fun cell width => max cell.length width) (widths rest)

/-- A line between rows. -/
def rule (columns : List Nat) : String :=
  columns.foldl (fun line width => line ++ String.ofList (List.replicate (width + 2) '-') ++ "+") "+"

/-- A cell filled up to the width of its column. -/
def cell (text : String) (width : Nat) : String :=
  " " ++ text ++ String.ofList (List.replicate (width - text.length) ' ') ++ " |"

/-- A row. -/
def line (columns : List Nat) (row : List String) : String :=
  String.join ("|" :: row.zipWith cell columns)

/-- The text of a table, without a newline at its end. -/
def render (rows : List (List String)) : String :=
  let columns := widths rows
  String.intercalate "\n" (rule columns :: rows.flatMap fun row => [line columns row, rule columns])

end QueryGateway.Client.Table
