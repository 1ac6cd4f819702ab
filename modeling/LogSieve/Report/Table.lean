import LogSieve.Text.Width

/-!
# Tables

Tables drawn with box characters. A column is as wide as its widest line and one blank on either
side, cells are aligned to the left, and a line feed in a cell starts a new line of its row.
-/

namespace LogSieve

/-- A table of texts. -/
structure Table where
  /-- The titles of the columns. -/
  header : List String
  /-- The rows, with a cell for each column. -/
  rows : List (List String)

namespace Table

/-! ### Cells -/

/-- The parts of a text between its line feeds. -/
def splitLines (text : List Char) : List (List Char) :=
  text.foldr (fun c lines =>
    if c = '\n' then [] :: lines
    else
      match lines with
      | [] => [[c]]
      | line :: rest => (c :: line) :: rest) [[]]

/-- The lines of a cell. -/
def cellLines (cell : String) : List (List Char) := splitLines cell.toList

/-- The width of the widest line of a cell. -/
def cellWidth (cell : String) : Nat :=
  (cellLines cell).foldl (fun widest line => max widest (Text.width line)) 0

/-- The widths of two rows of cells, taken together. -/
def widest : List Nat → List Nat → List Nat
  | m :: ms, n :: ns => max m n :: widest ms ns
  | ms, [] => ms
  | [], ns => ns

/-- The widths of the columns. -/
def columnWidths (table : Table) : List Nat :=
  (table.header :: table.rows).foldl (fun widths row => widest widths (row.map cellWidth)) []

/-! ### Lines -/

/-- A line of a cell between blanks, in the width of its column. -/
def pad (width : Nat) (line : List Char) : List Char :=
  ' ' :: (line ++ List.replicate (width - Text.width line) ' ' ++ [' '])

/-- Texts with a separator between them. -/
def joinWith (separator : List Char) : List (List Char) → List Char
  | [] => []
  | [part] => part
  | part :: next :: rest => part ++ separator ++ joinWith separator (next :: rest)

/-- A horizontal rule: its left end, its stroke, a crossing with a border of columns, its right
end. -/
def rule (left stroke crossing right : Char) (widths : List Nat) : List Char :=
  left :: (joinWith [crossing] (widths.map fun width => List.replicate (width + 2) stroke) ++
    [right])

/-- A line of a row, given by a line of each cell. -/
def rowLine (widths : List Nat) (lines : List (List Char)) : List Char :=
  '│' :: (joinWith ['┆'] (List.zipWith pad widths lines) ++ ['│'])

/-- The lines of a row; cells with fewer lines than others are filled up with blank ones. -/
def rowLines (widths : List Nat) (row : List String) : List (List Char) :=
  let cells := row.map cellLines
  let height := cells.foldl (fun height lines => max height lines.length) 0
  (List.range height).map fun i => rowLine widths (cells.map fun lines => lines.getD i [])

/-- The lines of several rows, with a rule between one and the next. -/
def bodyLines (widths : List Nat) : List (List String) → List (List Char)
  | [] => []
  | [row] => rowLines widths row
  | row :: next :: rest =>
    rowLines widths row ++ rule '├' '╌' '┼' '┤' widths :: bodyLines widths (next :: rest)

/-- The lines of a table. -/
def lines (table : Table) : List (List Char) :=
  let widths := table.columnWidths
  rule '┌' '─' '┬' '┐' widths :: rowLines widths table.header ++
    rule '╞' '═' '╪' '╡' widths :: bodyLines widths table.rows ++ [rule '└' '─' '┴' '┘' widths]

end Table

end LogSieve
