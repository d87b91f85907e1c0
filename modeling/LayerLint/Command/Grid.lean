/-!
# Grids

A grid is a table in a frame: a heavy one around the headings, and a light one around the rows. The
first column is aligned to the right, the others to the left. The title stands centred above.
-/

namespace LayerLint
namespace Command

/-- The text of a title, the headings and the rows. -/
structure Grid where
  title : String
  headings : List String
  rows : List (List String)

namespace Grid

/-- A text of the same character. -/
def repeated (count : Nat) (c : Char) : String :=
  String.ofList (List.replicate count c)

/-- The width of the cells of a column. -/
def columnWidth (grid : Grid) (index : Nat) : Nat :=
  ((grid.headings :: grid.rows).map fun row => (row[index]?.getD "").length).foldl max 0

/-- The widths of all columns. -/
def widths (grid : Grid) : List Nat :=
  (List.range grid.headings.length).map grid.columnWidth

/-- A cell of a row, filled up to the width of its column. -/
def cell (index width : Nat) (text : String) : String :=
  let filling := repeated (width - text.length) ' '
  " " ++ (if index = 0 then filling ++ text else text ++ filling) ++ " "

/-- A row between vertical lines. -/
def row (grid : Grid) (line : String) (texts : List String) : String :=
  let cells := (grid.widths.zip texts).zipIdx.map fun entry => cell entry.2 entry.1.1 entry.1.2
  line ++ String.intercalate line cells ++ line

/-- A horizontal line with its corners and crossings. -/
def rule (grid : Grid) (left : String) (line : Char) (crossing right : String) : String :=
  left ++ String.intercalate crossing (grid.widths.map fun width => repeated (width + 2) line) ++ right

/-- The width of the whole grid. -/
def width (grid : Grid) : Nat :=
  grid.widths.foldl (fun total width => total + (width + 3)) 1

/-- The title, centred above the grid; of an odd space the larger part is on the right. -/
def titleLine (grid : Grid) : String :=
  let spare := grid.width - grid.title.length
  repeated (spare / 2) ' ' ++ grid.title ++ repeated (spare - spare / 2) ' '

/-- The lines of a grid. -/
def lines (grid : Grid) : List String :=
  [grid.titleLine,
    grid.rule "┏" '━' "┳" "┓",
    grid.row "┃" grid.headings,
    grid.rule "┡" '━' "╇" "┩"] ++
  grid.rows.map (grid.row "│") ++
  [grid.rule "└" '─' "┴" "┘"]

end Grid
end Command
end LayerLint
