/-
  ServerStatus/StatLine.lean --- the stat line.

  A stat line compares two samples of a server, the previous one and the current
  one, in a single row of cells.  As JSON it is an object that is named for the
  server; as a grid it is a row of keys above a row of values.
-/
import LoadWatch.Grid
import LoadWatch.ServerStatus.Column
import LoadWatch.ServerStatus.Decode

set_option autoImplicit false

namespace LoadWatch.ServerStatus

open Json

/-- Two samples of one server. -/
structure StatLine where
  current : Sample
  previous : Sample

/-- The cells of columns, up to the first that cannot be shown. -/
def readAll (settings : CellSettings) (current previous : Sample) :
    List Selection → Except ArithmeticFault (List (String × String))
  | [] => .ok []
  | selection :: rest =>
    (selection.read settings current previous).bind fun cell =>
      (readAll settings current previous rest).map fun cells => (selection.key, cell) :: cells

namespace StatLine

/-- The settings for the cells of the line. -/
def settings (line : StatLine) (options : RenderOptions) : CellSettings where
  cores := line.current.cores
  humanReadable := options.humanReadable

/-- The keys and values of the line. -/
def cells (line : StatLine) (options : RenderOptions) :
    Except ArithmeticFault (List (String × String)) :=
  readAll (line.settings options) line.current line.previous
    (selections line.current.status options)

/-- The document of cells, named for the server. -/
def document (host : String) (cells : List (String × String)) : Value :=
  .object [(host, .ofMembers (cells.map fun cell => (cell.1, .string cell.2)))]

/-- The JSON line. -/
def json (line : StatLine) (options : RenderOptions) : Except ArithmeticFault String :=
  (line.cells options).map fun cells => (document line.current.status.host cells).render

/-- The grid of cells: a row of keys and a row of values. -/
def cellGrid (cells : List (String × String)) : Grid :=
  { rows := [cells.map Prod.fst, cells.map Prod.snd] }

/-- The grid of the line. -/
def grid (line : StatLine) (options : RenderOptions) : Except ArithmeticFault String :=
  (line.cells options).map fun cells => (cellGrid cells).render Report.columnPadding

end StatLine

/-- The report on the status of a server. -/
def report : Report Sample StatLine where
  diff current previous := ⟨current, previous⟩
  json options line := line.json options
  grid options line := line.grid options

end LoadWatch.ServerStatus
