/-
  Report.lean --- what the reports have in common.

  A report compares two snapshots of a server and shows the difference, as a
  grid or as a JSON line.  What can go wrong there is a division of integers.
-/
import LoadWatch.Json.Text
import LoadWatch.Ranking
import LoadWatch.Time.Moment

set_option autoImplicit false

namespace LoadWatch

/-- How differences are shown. -/
structure RenderOptions where
  /-- The number of entries to show, zero for the default. -/
  listCount : Nat := 0
  sortMode : Ranking.SortMode := .total
  /-- Stat line: amounts with units. -/
  humanReadable : Bool := false
  /-- Stat line: the extended columns too. -/
  all : Bool := false
  /-- Stat line: these columns instead of those that suit the server. -/
  fields : Option (List String) := none
  /-- Several servers are watched at the same time. -/
  multipleHosts : Bool := false
  /-- The server being watched, given when there are several. -/
  host : Option String := none

/-- Why a difference cannot be shown. -/
inductive ArithmeticFault where
  /-- The quotient of a number and zero. -/
  | divisionByZero
  /-- The quotient of the smallest counter and minus one. -/
  | divisionOverflow

/-- The wording of an arithmetic fault. -/
def ArithmeticFault.message : ArithmeticFault → String
  | .divisionByZero => "attempt to divide by zero"
  | .divisionOverflow => "attempt to divide with overflow"

/-- A kind of report. -/
structure Report (Snapshot Diff : Type) where
  /-- The difference between a snapshot and an earlier one. It is made from these two alone: the
  clock is not read for it. -/
  diff : (current previous : Snapshot) → Diff
  json : RenderOptions → Diff → Except ArithmeticFault String
  grid : RenderOptions → Diff → Except ArithmeticFault String

namespace Report

/-- The spaces between the columns of a grid. -/
def columnPadding : Nat := 4

/-- The least width of the first column, so that a grid keeps its place on the screen. -/
def keyColumnWidth : Nat := 48

/-- The heading of the first column, at the right end of its least width. -/
def keyHeading (heading : String) : String :=
  "".pushn ' ' (keyColumnWidth - heading.length) ++ heading

/-- A document that names the host it belongs to, if there is one to name. -/
def labelled (document : Json.Value) (options : RenderOptions) : Json.Value :=
  match document, options.host with
  | .object members, some host => .object (Keyed.insert "host" (.string host) members)
  | document, _ => document

/-- The JSON line of a document. -/
def line (document : Json.Value) (options : RenderOptions) : String :=
  (labelled document options).render

/-- The object with an entry for every key of a table. -/
def tableDocument {α : Type} (entryDocument : α → Json.Value) (table : Table α) : Json.Value :=
  .object (table.entries.map fun entry => (entry.1, entryDocument entry.2))

end Report

end LoadWatch
