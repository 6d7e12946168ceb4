/-
  LockUsage.lean --- the time that locks are held, per database.

  A snapshot holds the lock statistics of every database.  The difference of
  two snapshots has the databases that are in both, with the time in the read
  modes and in the write modes in milliseconds.  A server that counts lock
  acquisitions does not report these times, and is not supported.

  Main property: a database is in the difference exactly if it is in both
  snapshots, with the difference of what they say about it (`mem_diff_iff`).
-/
import LoadWatch.Failure
import LoadWatch.Grid
import LoadWatch.Json.Record
import LoadWatch.Report
import LoadWatch.Units

set_option autoImplicit false

namespace LoadWatch.LockUsage

open Json

/-- An amount for every lock mode: the plain modes and the intent modes. -/
structure ModeAmounts where
  read : Int := 0
  write : Int := 0
  intentRead : Int := 0
  intentWrite : Int := 0
  deriving DecidableEq

/-- The lock statistics of a database. -/
structure Statistics where
  acquireCount : Option ModeAmounts := none
  acquireWaitCount : Option ModeAmounts := none
  /-- Microseconds that locks were held. -/
  timeLocked : ModeAmounts := {}
  /-- Microseconds that were waited for locks. -/
  timeAcquiring : ModeAmounts := {}
  deriving DecidableEq

/-- The lock statistics of all databases at a moment. -/
structure Snapshot where
  time : Time.Moment
  locks : Table Statistics

/-- Lock times of a database in milliseconds. -/
structure LockTimes where
  read : Int
  write : Int
  deriving DecidableEq

/-- The difference of two snapshots. -/
structure Diff where
  elapsed : Time.Span
  current : Snapshot
  totals : Table LockTimes
  time : Time.Moment

/-! ## Decoding -/

/-- The declared members of an amount for every lock mode. -/
def modeAmountsSchema : Schema ModeAmounts where
  name := "ReadWriteLockTimes"
  initial := {}
  fields := [
    .of "R" decodeCounter fun n amounts => { amounts with read := n },
    .of "W" decodeCounter fun n amounts => { amounts with write := n },
    .of "r" decodeCounter fun n amounts => { amounts with intentRead := n },
    .of "w" decodeCounter fun n amounts => { amounts with intentWrite := n }]

/-- The declared members of the lock statistics of a database. -/
def statisticsSchema : Schema Statistics where
  name := "LockStats"
  initial := {}
  fields := [
    .of "acquireCount" (decodeOptional modeAmountsSchema.decode) fun amounts statistics =>
      { statistics with acquireCount := amounts },
    .of "acquireWaitCount" (decodeOptional modeAmountsSchema.decode) fun amounts statistics =>
      { statistics with acquireWaitCount := amounts },
    .of "timeLockedMicros" modeAmountsSchema.decode fun amounts statistics =>
      { statistics with timeLocked := amounts },
    .of "timeAcquiringMicros" modeAmountsSchema.decode fun amounts statistics =>
      { statistics with timeAcquiring := amounts }]

/-- What a server does not support that reports no lock times. -/
def unsupported : DecodeFault := .unsupported "lock information"

/-- The snapshot that a server status describes. -/
def Snapshot.ofReply (reply : Value) (time : Time.Moment) : Except DecodeFault Snapshot :=
  match reply.member? "locks" with
  | none => .error unsupported
  | some locks =>
    match decodeTable statisticsSchema.decode locks with
    | .error mismatch => .error (.malformed mismatch)
    | .ok locks =>
      if locks.values.any fun statistics => statistics.acquireCount.isSome then .error unsupported
      else .ok ⟨time, locks⟩

/-! ## Differences -/

/-- The amount of the read modes. -/
def ModeAmounts.readTotal (amounts : ModeAmounts) : Int := amounts.read + amounts.intentRead

/-- The amount of the write modes. -/
def ModeAmounts.writeTotal (amounts : ModeAmounts) : Int := amounts.write + amounts.intentWrite

/-- The time in all modes. -/
def LockTimes.total (times : LockTimes) : Int := wrapInt64 (times.read + times.write)

/-- The times that locks were held since earlier statistics; in milliseconds, towards zero. -/
def Statistics.since (current previous : Statistics) : LockTimes where
  read := (current.timeLocked.readTotal - previous.timeLocked.readTotal).tdiv 1000
  write := (current.timeLocked.writeTotal - previous.timeLocked.writeTotal).tdiv 1000

/-- The difference between a snapshot and an earlier one. -/
def Snapshot.diff (current previous : Snapshot) (time : Time.Moment) : Diff where
  elapsed := current.time.since previous.time
  current := current
  totals := previous.locks.join (fun earlier later => later.since earlier) current.locks
  time := time

/-- A database is in the difference exactly if it is in both snapshots. -/
theorem mem_diff_iff {current previous : Snapshot} {time : Time.Moment} {name : String}
    {times : LockTimes} :
    (current.diff previous time).totals.get? name = some times ↔
      ∃ earlier later, previous.locks.get? name = some earlier ∧
        current.locks.get? name = some later ∧ times = later.since earlier :=
  Table.mem_join_iff

/-! ## Ranking -/

/-- The accumulated time in the intent modes, which decides between equal differences. -/
def Statistics.intentTotal (statistics : Statistics) : Int :=
  wrapInt64 (statistics.timeLocked.intentRead + statistics.timeLocked.intentWrite)

/-- The entries to rank, by the time in all modes whatever the sort mode is. -/
def Diff.entries (diff : Diff) (_ : Ranking.SortMode) : List Ranking.Entry :=
  diff.totals.entries.map fun entry =>
    { key := entry.1
      metric := .ofInt entry.2.total
      tiebreak := ((diff.current.locks.get? entry.1).map Statistics.intentTotal).getD 0 }

/-- The entries to show, in order. -/
def Diff.ranked (diff : Diff) (options : RenderOptions) : List Ranking.Entry :=
  Ranking.shown (diff.entries options.sortMode) options.listCount

/-! ## Output -/

/-- The lock times of a database as a document. -/
def LockTimes.document (times : LockTimes) : Value :=
  .object [("read", .ofInt times.read), ("write", .ofInt times.write)]

/-- The difference as a document. -/
def Diff.document (diff : Diff) : Value :=
  .object [("time", .string diff.time.exactText),
    ("totals", Report.tableDocument LockTimes.document diff.totals)]

/-- The JSON line of a difference. -/
def Diff.json (diff : Diff) (options : RenderOptions) : String :=
  Report.line diff.document options

/-- The heading of the grid. -/
def heading (time : Time.Moment) : List String :=
  [Report.keyHeading "db", "total(ms)", "read(ms)", "write(ms)", time.text]

/-- The row of a database. The last column only has a heading. -/
def row (name : String) (times : LockTimes) : List String :=
  [name, decimal times.total ++ "ms", decimal times.read ++ "ms", decimal times.write ++ "ms", ""]

/-- The rows of the entries to show. -/
def Diff.rows (diff : Diff) (options : RenderOptions) : List (List String) :=
  (diff.ranked options).filterMap fun entry => (diff.totals.get? entry.key).map (row entry.key)

/-- The grid of a difference. -/
def Diff.grid (diff : Diff) (options : RenderOptions) : String :=
  let grid : Grid := { rows := heading diff.time :: diff.rows options }
  grid.render Report.columnPadding

/-- The report on locks. A difference is stamped with the moment of the current snapshot, and not
with a second reading of the clock when it is made. -/
def report : Report Snapshot Diff where
  diff current previous := current.diff previous current.time
  json options diff := .ok (diff.json options)
  grid options diff := .ok (diff.grid options)

end LoadWatch.LockUsage
