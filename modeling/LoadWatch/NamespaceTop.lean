/-
  NamespaceTop.lean --- the time spent on every namespace.

  A snapshot holds, for every namespace, the accumulated time in microseconds
  and the count of all operations, of those that read and of those that wrote.
  The difference of two snapshots has the namespaces that are in both, with the
  time in milliseconds.

  Main property: a namespace is in the difference exactly if it is in both
  snapshots, with the difference of what they say about it (`mem_diff_iff`).
-/
import LoadWatch.Failure
import LoadWatch.Grid
import LoadWatch.Json.Record
import LoadWatch.Report
import LoadWatch.Units

set_option autoImplicit false

namespace LoadWatch.NamespaceTop

open Json

/-- An accumulated time and a count of operations. -/
structure Usage where
  time : Int := 0
  count : Int := 0
  deriving DecidableEq

/-- The usage of a namespace. -/
structure Activity where
  total : Usage := {}
  read : Usage := {}
  write : Usage := {}
  deriving DecidableEq

/-- The usage of all namespaces at a moment, with times in microseconds. -/
structure Snapshot where
  time : Time.Moment
  /-- The number of processor cores of the server, zero if it is unknown. -/
  cores : Int
  totals : Table Activity

/-- The difference of two snapshots, with times in milliseconds. -/
structure Diff where
  cores : Int
  elapsed : Time.Span
  current : Snapshot
  totals : Table Activity
  time : Time.Moment

/-! ## Decoding -/

/-- The declared members of a usage. -/
def usageSchema : Schema Usage where
  name := "TopField"
  initial := {}
  fields := [
    .of "time" decodeCounter fun n usage => { usage with time := n },
    .of "count" decodeCounter fun n usage => { usage with count := n }]

/-- The declared members of a namespace. -/
def activitySchema : Schema Activity where
  name := "NsTopInfo"
  initial := {}
  fields := [
    .of "total" usageSchema.decode fun usage activity => { activity with total := usage },
    .of "readLock" usageSchema.decode fun usage activity => { activity with read := usage },
    .of "writeLock" usageSchema.decode fun usage activity => { activity with write := usage }]

/-- The totals without the note, which is no namespace. -/
def withoutNote : Value → Value
  | .object members => .object (Keyed.erase "note" members)
  | value => value

/-- The snapshot that a reply describes. -/
def Snapshot.ofReply (reply : Value) (time : Time.Moment) (cores : Int) :
    Except DecodeFault Snapshot :=
  match reply.member? "totals" with
  | none => .error (.missing "totals")
  | some totals =>
    match decodeTable activitySchema.decode (withoutNote totals) with
    | .ok totals => .ok ⟨time, cores, totals⟩
    | .error mismatch => .error (.malformed mismatch)

/-! ## Differences -/

/-- What a usage has grown by since an earlier one; its time in milliseconds, towards zero. -/
def Usage.since (current previous : Usage) : Usage where
  time := (current.time - previous.time).tdiv 1000
  count := current.count - previous.count

/-- What the usage of a namespace has grown by since an earlier one. -/
def Activity.since (current previous : Activity) : Activity where
  total := current.total.since previous.total
  read := current.read.since previous.read
  write := current.write.since previous.write

/-- The difference between a snapshot and an earlier one. -/
def Snapshot.diff (current previous : Snapshot) (time : Time.Moment) : Diff where
  cores := previous.cores
  elapsed := current.time.since previous.time
  current := current
  totals := previous.totals.join (fun earlier later => later.since earlier) current.totals
  time := time

/-- A namespace is in the difference exactly if it is in both snapshots. -/
theorem mem_diff_iff {current previous : Snapshot} {time : Time.Moment} {name : String}
    {activity : Activity} :
    (current.diff previous time).totals.get? name = some activity ↔
      ∃ earlier later, previous.totals.get? name = some earlier ∧
        current.totals.get? name = some later ∧ activity = later.since earlier :=
  Table.mem_join_iff

/-! ## Ranking -/

/-- The metric of a namespace: its time, or its time per operation. -/
def metric (mode : Ranking.SortMode) (activity : Activity) : Binary64 :=
  match mode with
  | .total => .ofInt activity.total.time
  | .latency => .ofInt activity.total.time / .ofInt activity.total.count

/-- The entries to rank; equal metrics are decided by the accumulated time. -/
def Diff.entries (diff : Diff) (mode : Ranking.SortMode) : List Ranking.Entry :=
  diff.totals.entries.map fun entry =>
    { key := entry.1
      metric := metric mode entry.2
      tiebreak := ((diff.current.totals.get? entry.1).map fun now => now.total.time).getD 0 }

/-- The entries to show, in order. -/
def Diff.ranked (diff : Diff) (options : RenderOptions) : List Ranking.Entry :=
  Ranking.shown (diff.entries options.sortMode) options.listCount

/-! ## Output -/

/-- A usage as a document. -/
def Usage.document (usage : Usage) : Value :=
  .object [("count", .ofInt usage.count), ("time", .ofInt usage.time)]

/-- The usage of a namespace as a document. -/
def Activity.document (activity : Activity) : Value :=
  .object [("read", activity.read.document), ("total", activity.total.document),
    ("write", activity.write.document)]

/-- The difference as a document. -/
def Diff.document (diff : Diff) : Value :=
  .object [("time", .string diff.time.exactText),
    ("totals", Report.tableDocument Activity.document diff.totals)]

/-- The JSON line of a difference. -/
def Diff.json (diff : Diff) (options : RenderOptions) : String :=
  Report.line diff.document options

/-- The time of a usage, its part of the elapsed time, its time per operation and its operations
per second. -/
def usageCells (elapsedMillis : Binary64) (usage : Usage) : List String :=
  let time := Binary64.ofInt usage.time
  let count := Binary64.ofInt usage.count
  [decimal usage.time ++ "ms",
    percentText time elapsedMillis 1,
    (time / count).fixed 1 ++ "ms/op",
    (count / (elapsedMillis / .ofNat 1000)).fixed 1 ++ "op/s"]

/-- The part of the elapsed time of all cores together. -/
def perCoreCell (elapsedMillis cores : Binary64) (usage : Usage) : String :=
  (Binary64.ofInt usage.time / elapsedMillis * .ofNat 100 / cores).fixed 2 ++ "%"

/-- The heading of the grid. -/
def heading (time : Time.Moment) : List String :=
  [Report.keyHeading "ns", "TOTAL(ms)", "total%", "total%/core", "time/op", "op/s",
    "READ(ms)", "read%", "time/op", "op/s", "WRITE(ms)", "write%", "time/op", "op/s", time.text]

/-- The row of a namespace. The last column only has a heading. -/
def Diff.row (diff : Diff) (name : String) (activity : Activity) : List String :=
  let elapsedMillis := Binary64.ofInt diff.elapsed.millis
  let total := usageCells elapsedMillis activity.total
  [name] ++ total.take 2 ++
    [perCoreCell elapsedMillis (.ofInt diff.cores) activity.total] ++ total.drop 2 ++
    usageCells elapsedMillis activity.read ++ usageCells elapsedMillis activity.write ++ [""]

/-- The rows of the entries to show. -/
def Diff.rows (diff : Diff) (options : RenderOptions) : List (List String) :=
  (diff.ranked options).filterMap fun entry =>
    (diff.totals.get? entry.key).map (diff.row entry.key)

/-- The grid of a difference. -/
def Diff.grid (diff : Diff) (options : RenderOptions) : String :=
  let grid : Grid := { rows := heading diff.time :: diff.rows options }
  grid.render Report.columnPadding

/-- The report on namespaces. A difference is stamped with the moment of the current snapshot, and
not with a second reading of the clock when it is made. -/
def report : Report Snapshot Diff where
  diff current previous := current.diff previous current.time
  json options diff := .ok (diff.json options)
  grid options diff := .ok (diff.grid options)

end LoadWatch.NamespaceTop
