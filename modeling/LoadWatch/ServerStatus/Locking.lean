/-
  ServerStatus/Locking.lean --- the lock cells of the stat line.

  Old servers report how long locks were held, per database; the database with
  the most lock time since the previous sample is shown.  Newer ones count the
  acquisitions of collection locks, and how many of them had to wait.
-/
import LoadWatch.ServerStatus.Rate
import LoadWatch.ServerStatus.Role

set_option autoImplicit false

namespace LoadWatch.ServerStatus

open LockUsage (Statistics ModeAmounts)

/-! ## The most locked database -/

/-- The lock time of a database between two samples, in microseconds. -/
structure LockGrowth where
  database : String
  read : Int
  write : Int

namespace LockGrowth

/-- The time in all modes. -/
def total (growth : LockGrowth) : Int := growth.read + growth.write

/-- The left database comes out on top: it has more lock time, or as much and a smaller name. -/
def exceeds (left right : LockGrowth) : Bool :=
  right.total < left.total || (right.total = left.total && left.database < right.database)

/-- The growth that exceeds all others of a list. -/
def top? : List LockGrowth → Option LockGrowth
  | [] => none
  | first :: rest =>
    some (rest.foldl (fun best growth => if growth.exceeds best then growth else best) first)

end LockGrowth

/-- The lock times of the databases that are in both tables. -/
def lockGrowths (current previous : Table Statistics) : List LockGrowth :=
  current.entries.filterMap fun entry =>
    (previous.get? entry.1).map fun before =>
      { database := entry.1
        read := entry.2.timeLocked.readTotal - before.timeLocked.readTotal
        write := entry.2.timeLocked.writeTotal - before.timeLocked.writeTotal }

/-- The name under which the lock of the whole server is reported. -/
def serverLock : String := "."

/-- The write time that is charged to a database: its own, and that of the lock of the whole
server. -/
def chargedWrite (growths : List LockGrowth) (database : LockGrowth) : Int :=
  database.write +
    (if database.database = serverLock then 0
      else ((growths.filter fun growth => growth.database = serverLock).map
        LockGrowth.write).foldl (· + ·) 0)

/-- Acquisitions are counted in the entry for the whole server. -/
def countsAcquisitions (locks : Table Statistics) : Bool :=
  match locks.get? "Global" with
  | some statistics => statistics.acquireCount.isSome
  | none => false

/-- The most locked database and its part of the elapsed time, or the part of the time that the
global lock was held if no database is in both samples. -/
def lockedDatabase (current previous : Status) : String :=
  if current.isRouter then ""
  else
    match current.locks, previous.locks with
    | some now, some before =>
      if countsAcquisitions before then ""
      else
        let growths := lockGrowths now before
        match LockGrowth.top? growths with
        | some top =>
          -- Lock times are in microseconds, the uptime is in milliseconds.
          top.database ++ ":" ++ percentCell ((chargedWrite growths top).tdiv 1000)
            (current.uptimeMillis - previous.uptimeMillis)
        | none =>
          match current.globalLock with
          | some lock => ":" ++ percentCell lock.lockTime lock.totalTime
          | none => ""
    | _, _ => ""

/-- The server reports lock times. -/
def hasLocks (status : Status) : Bool := lockedDatabase status status ≠ ""

/-! ## Collection locks -/

/-- The statistics of the collection locks of two samples. -/
structure CollectionLocks where
  current : Statistics
  previous : Statistics

/-- The collection locks of both samples, where acquisitions and waits are counted. -/
def collectionLocks? (current previous : Status) : Option CollectionLocks :=
  if current.isRouter then none
  else
    match current.locks, previous.locks with
    | some _, some before =>
      if !countsAcquisitions before then none
      else
        match current.lock? "Collection", previous.lock? "Collection" with
        | some now, some earlier =>
          if now.acquireWaitCount.isSome && earlier.acquireWaitCount.isSome then
            some ⟨now, earlier⟩
          else none
        | _, _ => none
    | _, _ => none

/-- The server counts the collection locks that had to wait. -/
def hasCollectionLocks (status : Status) : Bool := (collectionLocks? status status).isSome

namespace CollectionLocks

/-- The acquisitions that had to wait, then and now. -/
def waits (locks : CollectionLocks) : ModeAmounts × ModeAmounts :=
  (locks.current.acquireWaitCount.getD {}, locks.previous.acquireWaitCount.getD {})

/-- All acquisitions, then and now. -/
def acquisitions (locks : CollectionLocks) : ModeAmounts × ModeAmounts :=
  (locks.current.acquireCount.getD {}, locks.previous.acquireCount.getD {})

end CollectionLocks

/-- The part of the collection lock acquisitions that had to wait, for reads and writes. -/
def lockWaits (current previous : Status) : String :=
  match collectionLocks? current previous with
  | none => ""
  | some locks =>
    let (newWaits, oldWaits) := locks.waits
    let (newAcquisitions, oldAcquisitions) := locks.acquisitions
    percentCell (newWaits.read - oldWaits.read) (newAcquisitions.read - oldAcquisitions.read) ++
      "|" ++
      percentCell (newWaits.write - oldWaits.write)
        (newAcquisitions.write - oldAcquisitions.write)

/-- The microseconds that a waiting acquisition took on average, for reads and writes. -/
def lockWaitTimes (current previous : Status) : Except ArithmeticFault String :=
  match collectionLocks? current previous with
  | none => .ok ""
  | some locks =>
    let (newWaits, oldWaits) := locks.waits
    let newTimes := locks.current.timeAcquiring
    let oldTimes := locks.previous.timeAcquiring
    (average (newTimes.read - oldTimes.read) (newWaits.read - oldWaits.read)).bind fun reads =>
      (average (newTimes.write - oldTimes.write) (newWaits.write - oldWaits.write)).map
        fun writes => decimal reads ++ "|" ++ decimal writes

end LoadWatch.ServerStatus
