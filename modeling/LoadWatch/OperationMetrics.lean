/-
  OperationMetrics.lean --- document units and processor time, per database.

  A snapshot is read from a cursor whose documents each describe a database.
  Reading stops at the first document that cannot be read or decoded; of several
  documents for one database the last counts.  The difference of two snapshots
  has the databases that are in both.

  Main properties: a database is in the difference exactly if it is in both
  snapshots (`mem_diff_iff`), and the document units of a difference are the
  difference of the document units (`totalUnits_since`).
-/
import LoadWatch.Failure
import LoadWatch.Grid
import LoadWatch.Json.Record
import LoadWatch.Report
import LoadWatch.Units

set_option autoImplicit false

namespace LoadWatch.OperationMetrics

open Json

/-- What was read on the members of one kind. -/
structure Reads where
  documentBytes : Int := 0
  documentUnits : Int := 0
  indexBytes : Int := 0
  indexUnits : Int := 0
  keysSorted : Int := 0
  sorterSpills : Int := 0
  unitsReturned : Int := 0
  cursorSeeks : Int := 0
  deriving DecidableEq

/-- The metrics of a database, or their difference. -/
structure Metrics where
  primary : Reads := {}
  secondary : Reads := {}
  documentBytesWritten : Int := 0
  documentUnitsWritten : Int := 0
  indexBytesWritten : Int := 0
  indexUnitsWritten : Int := 0
  /-- Nanoseconds of processor time. -/
  processorTime : Int := 0
  deriving DecidableEq

/-- A document of the cursor: a database and its metrics. -/
structure Entry where
  database : String := ""
  metrics : Metrics := {}
  deriving DecidableEq

/-- The metrics of all databases at a moment. -/
structure Snapshot where
  time : Time.Moment
  /-- The number of processor cores of the server, zero if it is unknown. -/
  cores : Int
  databases : Table Metrics

/-- The difference of two snapshots. -/
structure Diff where
  cores : Int
  elapsed : Time.Span
  current : Snapshot
  totals : Table Metrics
  time : Time.Moment

/-! ## Decoding -/

/-- The declared members of what was read. -/
def readsSchema : Schema Reads where
  name := "OperationMetricsMemberInfo"
  initial := {}
  fields := [
    .of "docBytesRead" decodeCounter fun n reads => { reads with documentBytes := n },
    .of "docUnitsRead" decodeCounter fun n reads => { reads with documentUnits := n },
    .of "idxEntryBytesRead" decodeCounter fun n reads => { reads with indexBytes := n },
    .of "idxEntryUnitsRead" decodeCounter fun n reads => { reads with indexUnits := n },
    .of "keysSorted" decodeCounter fun n reads => { reads with keysSorted := n },
    .of "sorterSpills" decodeCounter fun n reads => { reads with sorterSpills := n },
    .of "docUnitsReturned" decodeCounter fun n reads => { reads with unitsReturned := n },
    .of "cursorSeeks" decodeCounter fun n reads => { reads with cursorSeeks := n }]

/-- A member of the metrics of a database. -/
def metricField {α : Type} (name : String) (decode : Decoder α) (store : α → Metrics → Metrics) :
    RecordField Entry :=
  .of name decode fun item entry => { entry with metrics := store item entry.metrics }

/-- The declared members of a document of the cursor. -/
def entrySchema : Schema Entry where
  name := "OperationMetricsEntry"
  initial := {}
  fields := [
    .of "db" decodeText fun name entry => { entry with database := name },
    metricField "primaryMetrics" readsSchema.decode fun reads metrics =>
      { metrics with primary := reads },
    metricField "secondaryMetrics" readsSchema.decode fun reads metrics =>
      { metrics with secondary := reads },
    metricField "docBytesWritten" decodeCounter fun n metrics =>
      { metrics with documentBytesWritten := n },
    metricField "docUnitsWritten" decodeCounter fun n metrics =>
      { metrics with documentUnitsWritten := n },
    metricField "idxEntryBytesWritten" decodeCounter fun n metrics =>
      { metrics with indexBytesWritten := n },
    metricField "idxEntryUnitsWritten" decodeCounter fun n metrics =>
      { metrics with indexUnitsWritten := n },
    metricField "cpuNanos" decodeCounter fun n metrics => { metrics with processorTime := n }]

/-- A document of the cursor, or the failure to read it. -/
abbrev CursorItem := Except Failure Value

/-- The database and the metrics that a document of the cursor describes. -/
def Entry.ofItem : CursorItem → Except DecodeFault Entry
  | .error failure => .error (.cursor failure.text)
  | .ok document =>
    match document.member? "db" with
    | none => .error (.missing "db")
    | some _ =>
      match entrySchema.decode document with
      | .ok entry => .ok entry
      | .error mismatch => .error (.malformed mismatch)

/-- The table of the databases of a cursor, added to the table of those before them. -/
def collect : List CursorItem → Table Metrics → Except DecodeFault (Table Metrics)
  | [], databases => .ok databases
  | item :: rest, databases =>
    match Entry.ofItem item with
    | .ok entry => collect rest (databases.insert entry.database entry.metrics)
    | .error fault => .error fault

/-- The snapshot that a cursor describes. -/
def Snapshot.ofCursor (cursor : List CursorItem) (time : Time.Moment) (cores : Int) :
    Except DecodeFault Snapshot :=
  match collect cursor .empty with
  | .ok databases => .ok ⟨time, cores, databases⟩
  | .error fault => .error fault

/-! ## Differences -/

/-- What was read since an earlier count. -/
def Reads.since (current previous : Reads) : Reads where
  documentBytes := current.documentBytes - previous.documentBytes
  documentUnits := current.documentUnits - previous.documentUnits
  indexBytes := current.indexBytes - previous.indexBytes
  indexUnits := current.indexUnits - previous.indexUnits
  keysSorted := current.keysSorted - previous.keysSorted
  sorterSpills := current.sorterSpills - previous.sorterSpills
  unitsReturned := current.unitsReturned - previous.unitsReturned
  cursorSeeks := current.cursorSeeks - previous.cursorSeeks

/-- What the metrics of a database have grown by since earlier ones. -/
def Metrics.since (current previous : Metrics) : Metrics where
  primary := current.primary.since previous.primary
  secondary := current.secondary.since previous.secondary
  documentBytesWritten := current.documentBytesWritten - previous.documentBytesWritten
  documentUnitsWritten := current.documentUnitsWritten - previous.documentUnitsWritten
  indexBytesWritten := current.indexBytesWritten - previous.indexBytesWritten
  indexUnitsWritten := current.indexUnitsWritten - previous.indexUnitsWritten
  processorTime := current.processorTime - previous.processorTime

/-- The document units read on all members. -/
def Metrics.unitsRead (metrics : Metrics) : Int :=
  metrics.primary.documentUnits + metrics.secondary.documentUnits

/-- The document units read and written. -/
def Metrics.totalUnits (metrics : Metrics) : Int :=
  metrics.unitsRead + metrics.documentUnitsWritten

/-- The document units of a difference are the difference of the document units. -/
theorem totalUnits_since (current previous : Metrics) :
    (current.since previous).totalUnits = current.totalUnits - previous.totalUnits := by
  simp only [Metrics.totalUnits, Metrics.unitsRead, Metrics.since, Reads.since]
  omega

/-- The difference between a snapshot and an earlier one. -/
def Snapshot.diff (current previous : Snapshot) (time : Time.Moment) : Diff where
  cores := previous.cores
  elapsed := current.time.since previous.time
  current := current
  totals := previous.databases.join (fun earlier later => later.since earlier) current.databases
  time := time

/-- A database is in the difference exactly if it is in both snapshots. -/
theorem mem_diff_iff {current previous : Snapshot} {time : Time.Moment} {name : String}
    {metrics : Metrics} :
    (current.diff previous time).totals.get? name = some metrics ↔
      ∃ earlier later, previous.databases.get? name = some earlier ∧
        current.databases.get? name = some later ∧ metrics = later.since earlier :=
  Table.mem_join_iff

/-! ## Ranking -/

/-- What databases are ordered by: processor time, or document units, which wrap. -/
def sortValue (mode : Ranking.SortMode) (metrics : Metrics) : Int :=
  match mode with
  | .total => metrics.processorTime
  | .latency => wrapInt64 metrics.totalUnits

/-- The entries to rank; equal differences are decided by the current value. -/
def Diff.entries (diff : Diff) (mode : Ranking.SortMode) : List Ranking.Entry :=
  diff.totals.entries.map fun entry =>
    { key := entry.1
      metric := .ofInt (sortValue mode entry.2)
      tiebreak := ((diff.current.databases.get? entry.1).map (sortValue mode)).getD 0 }

/-- The entries to show, in order. -/
def Diff.ranked (diff : Diff) (options : RenderOptions) : List Ranking.Entry :=
  Ranking.shown (diff.entries options.sortMode) options.listCount

/-! ## Output -/

/-- There is no document for a difference of operation metrics, only this statement. -/
def unsupportedDocument : Value := .object [("unsupported", .bool true)]

/-- The JSON line of a difference. -/
def Diff.json (_ : Diff) (options : RenderOptions) : String :=
  Report.line unsupportedDocument options

/-- The heading of the grid. -/
def heading (time : Time.Moment) : List String :=
  [Report.keyHeading "ns", "TOTAL", "total Units/s", "total RUnits/s", "total WUnits/s",
    time.text]

/-- An amount of document units per second. -/
def rateCell (elapsedSeconds : Binary64) (units : Int) (suffix : String) : String :=
  (Binary64.ofInt units / elapsedSeconds).fixed 1 ++ suffix

/-- The row of a database. The last column only has a heading. -/
def Diff.row (diff : Diff) (name : String) (metrics : Metrics) : List String :=
  let elapsedSeconds := Binary64.ofInt diff.elapsed.millis / .ofNat 1000
  [name, "",
    rateCell elapsedSeconds (wrapInt64 metrics.totalUnits) "Units/s",
    rateCell elapsedSeconds (wrapInt64 metrics.unitsRead) "RUnits/s",
    rateCell elapsedSeconds metrics.documentUnitsWritten "WUnits/s",
    ""]

/-- The rows of the entries to show. -/
def Diff.rows (diff : Diff) (options : RenderOptions) : List (List String) :=
  (diff.ranked options).filterMap fun entry =>
    (diff.totals.get? entry.key).map (diff.row entry.key)

/-- The grid of a difference. -/
def Diff.grid (diff : Diff) (options : RenderOptions) : String :=
  let grid : Grid := { rows := heading diff.time :: diff.rows options }
  grid.render Report.columnPadding

/-- The report on operation metrics. A difference is stamped with the moment of the current
snapshot, and not with a second reading of the clock when it is made. -/
def report : Report Snapshot Diff where
  diff current previous := current.diff previous current.time
  json options diff := .ok (diff.json options)
  grid options diff := .ok (diff.grid options)

end LoadWatch.OperationMetrics
