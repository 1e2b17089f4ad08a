import SearchFilter.Text.Width

/-!
Tables drawn with lines. Columns are as wide as their widest line with a blank at each side, and a
cell of several lines makes its row taller.
-/

namespace SearchFilter.Report

structure Grid where
  header : List String
  rows : List (List String)

namespace Grid

def cellLines (cell : String) : List (List Char) := cell.toList.splitOn '\n'

def cellWidth (cell : String) : Nat := ((cellLines cell).map Text.width).foldl max 0

def widths (grid : Grid) : List Nat :=
  grid.rows.foldl (fun widths row => List.zipWith max widths (row.map cellWidth))
    (grid.header.map cellWidth)

def rule (left fill between right : Char) (widths : List Nat) : List Char :=
  left :: ([between].intercalate (widths.map fun width => List.replicate (width + 2) fill) ++
    [right])

def padded (width : Nat) (line : List Char) : List Char :=
  ' ' :: (line ++ List.replicate (width + 1 - Text.width line) ' ')

def rowLine (widths : List Nat) (cells : List (List (List Char))) (index : Nat) : List Char :=
  let texts := List.zipWith (fun width lines => padded width (lines[index]?.getD [])) widths cells
  '│' :: (['┆'].intercalate texts ++ ['│'])

def rowLines (widths : List Nat) (row : List String) : List (List Char) :=
  let cells := row.map cellLines
  let height := (cells.map List.length).foldl max 0
  (List.range height).map (rowLine widths cells)

def body (widths : List Nat) : List (List String) → List (List Char)
  | [] => []
  | [last] => rowLines widths last
  | row :: next :: rest =>
    rowLines widths row ++ rule '├' '╌' '┼' '┤' widths :: body widths (next :: rest)

def draw (grid : Grid) : String :=
  let widths := grid.widths
  let lines := rule '╭' '─' '┬' '╮' widths :: (rowLines widths grid.header ++
    rule '╞' '═' '╪' '╡' widths :: (body widths grid.rows ++ [rule '╰' '─' '┴' '╯' widths]))
  String.intercalate "\n" (lines.map String.ofList)

end Grid

end SearchFilter.Report
