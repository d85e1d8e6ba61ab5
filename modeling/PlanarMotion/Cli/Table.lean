/-!
# Tables

Tables have a title above and a frame around, and columns as wide as their widest cell.
All texts in them are ASCII, so that their length is their width.

## Main definitions

* `Column`, `Table`: A table.
* `Table.render`: Its lines.
-/

namespace PlanarMotion

namespace Cli

/-- A column of a table. -/
structure Column where
  /-- What stands above it. -/
  header : String
  /-- Whether its cells are moved to the right. -/
  toRight : Bool

/-- A table with a title. -/
structure Table where
  /-- What stands above the frame. -/
  title : String
  /-- The columns in order. -/
  columns : List Column
  /-- The rows of cells. -/
  rows : List (List String)

/-- A character, a number of times. -/
def fill (n : Nat) (c : Char) : String :=
  String.ofList (List.replicate n c)

/-- A cell filled up with spaces to a width. -/
def justify (toRight : Bool) (width : Nat) (cell : String) : String :=
  let padding := fill (width - cell.length) ' '
  if toRight then padding ++ cell else cell ++ padding

namespace Table

/-- The cells of a column, its header first. -/
def cellsOf (t : Table) (index : Nat) (c : Column) : List String :=
  c.header :: t.rows.map fun row => row[index]?.getD ""

/-- The widths of the columns. -/
def widths (t : Table) : List Nat :=
  t.columns.mapIdx fun index c => (t.cellsOf index c).foldl (fun w cell => max w cell.length) 0

/-- A row of the frame: dashes over each column, with a space's width on both sides. -/
def ruler (t : Table) (left middle right : String) : String :=
  left ++ middle.intercalate (t.widths.map fun w => fill (w + 2) '─') ++ right

/-- A row of cells. -/
def row (t : Table) (cells : List String) : String :=
  let padded := (t.columns.zip t.widths).mapIdx fun index (c, w) =>
    " " ++ justify c.toRight w (cells[index]?.getD "") ++ " "
  "│" ++ "│".intercalate padded ++ "│"

/-- The width of the framed table. -/
def width (t : Table) : Nat :=
  t.widths.foldl (fun sum w => sum + w + 3) 1

/-- The title in the middle above the table, an odd space on the right. -/
def titleLine (t : Table) : String :=
  let excess := t.width - t.title.length
  fill (excess / 2) ' ' ++ t.title ++ fill (excess - excess / 2) ' '

/-- The lines of a table. -/
def lines (t : Table) : List String :=
  [t.titleLine, t.ruler "╭" "┬" "╮", t.row (t.columns.map (·.header)), t.ruler "├" "┼" "┤"]
    ++ t.rows.map t.row ++ [t.ruler "╰" "┴" "╯"]

/-- A table as text. -/
def render (t : Table) : String :=
  String.join (t.lines.map (· ++ "\n"))

end Table

end Cli

end PlanarMotion
