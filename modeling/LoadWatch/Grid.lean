/-
  Grid.lean --- rows of cells, aligned in columns.

  A grid collects cells into rows, and rows into lines of text.  Every cell of a
  column is right aligned to the widest cell of that column, counted in
  characters, columns are separated by a padding of spaces, and blanks at the
  end of a line are dropped.  A row that was begun and not ended is a line too.

  Main properties: writing a list of cells is writing them one by one
  (`writeCells_append`), and there is one line for every ended row and one for a
  begun row (`length_allRows`).
-/
import LoadWatch.Text.Blank

set_option autoImplicit false

namespace LoadWatch

/-- Rows of cells. -/
structure Grid where
  /-- The ended rows, in order. -/
  rows : List (List String) := []
  /-- The cells of the row that is not ended yet. -/
  begun : List String := []

namespace Grid

/-- The grid without cells. -/
def empty : Grid := {}

/-- A cell at the end of the begun row. -/
def writeCell (grid : Grid) (cell : String) : Grid :=
  { grid with begun := grid.begun ++ [cell] }

/-- Several cells at the end of the begun row. -/
def writeCells (grid : Grid) (cells : List String) : Grid :=
  { grid with begun := grid.begun ++ cells }

/-- Ends the begun row, which may be empty. -/
def endRow (grid : Grid) : Grid :=
  { rows := grid.rows ++ [grid.begun], begun := [] }

/-- A row of its own. -/
def writeRow (grid : Grid) (cells : List String) : Grid := (grid.writeCells cells).endRow

/-- The rows that are shown: the ended ones, and the begun one if it has cells. -/
def allRows (grid : Grid) : List (List String) :=
  grid.rows ++ (if grid.begun.isEmpty then [] else [grid.begun])

/-! ## Widths -/

/-- The larger widths of two rows of widths, column by column. -/
def mergeWidths : List Nat → List Nat → List Nat
  | [], right => right
  | left, [] => left
  | l :: left, r :: right => max l r :: mergeWidths left right

/-- The width of every column. -/
def columnWidths (rows : List (List String)) : List Nat :=
  rows.foldl (fun widths row => mergeWidths widths (row.map String.length)) []

/-! ## Lines -/

/-- A text with spaces before it, up to a width. -/
def alignRight (width : Nat) (text : List Char) : List Char :=
  List.replicate (width - text.length) ' ' ++ text

/-- The cells after the first, each after the padding and aligned to its column. -/
def moreCells (padding : Nat) : List Nat → List String → List Char
  | width :: widths, cell :: cells =>
    List.replicate padding ' ' ++ alignRight width cell.toList ++ moreCells padding widths cells
  | _, _ => []

/-- The cells of a row, aligned to their columns. -/
def rowText (padding : Nat) : List Nat → List String → List Char
  | width :: widths, cell :: cells =>
    alignRight width cell.toList ++ moreCells padding widths cells
  | _, _ => []

/-- The line of a row. -/
def line (padding : Nat) (widths : List Nat) (row : List String) : List Char :=
  Text.trimEnd (rowText padding widths row) ++ ['\n']

/-- The lines of the grid. -/
def lines (grid : Grid) (padding : Nat) : List (List Char) :=
  grid.allRows.map (line padding (columnWidths grid.allRows))

/-- The text of the grid: a line for every row. -/
def render (grid : Grid) (padding : Nat) : String := String.ofList (grid.lines padding).flatten

/-! ## Writing -/

/-- Writing a list of cells is writing them one by one. -/
theorem writeCells_cons (grid : Grid) (cell : String) (cells : List String) :
    grid.writeCells (cell :: cells) = (grid.writeCell cell).writeCells cells := by
  simp [writeCells, writeCell]

/-- Writing two lists of cells is writing them one after the other. -/
theorem writeCells_append (grid : Grid) (left right : List String) :
    grid.writeCells (left ++ right) = (grid.writeCells left).writeCells right := by
  simp [writeCells]

/-- There is one line for every ended row, and one for a begun row with cells. -/
theorem length_allRows (grid : Grid) :
    grid.allRows.length = grid.rows.length + (if grid.begun.isEmpty then 0 else 1) := by
  unfold allRows
  split <;> simp

end Grid

end LoadWatch
