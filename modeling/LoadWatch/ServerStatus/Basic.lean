/-
  ServerStatus/Basic.lean --- the status of a server.

  A status has the sections that the stat line reads.  Which sections a server
  reports depends on its version, its storage engine and its role, so most of
  them are optional; a counter that is missing from a section is zero.

  A sample is a status together with its moment, the number of processor cores,
  and the whole reply, for columns that are selected by a path.
-/
import LoadWatch.LockUsage

set_option autoImplicit false

namespace LoadWatch.ServerStatus

open Json

/-! ## Sections -/

structure StorageEngine where
  name : String := ""

/-- Operations since the start of the server. -/
structure Opcounters where
  insert : Int := 0
  query : Int := 0
  update : Int := 0
  delete : Int := 0
  getmore : Int := 0
  command : Int := 0

/-- The cache of the storage engine, in bytes and pages. -/
structure Cache where
  dirtyBytes : Int := 0
  currentBytes : Int := 0
  maxBytes : Int := 0
  bytesReadInto : Int := 0
  bytesWrittenFrom : Int := 0
  pagesReadInto : Int := 0
  pagesRequested : Int := 0
  pagesWrittenFrom : Int := 0
  pagesHeld : Int := 0
  unmodifiedEvicted : Int := 0
  modifiedEvicted : Int := 0
  internalEvicted : Int := 0

structure Transactions where
  checkpoints : Int := 0

/-- The tickets of one kind that are given out, and those that are left. -/
structure Tickets where
  out : Int := 0
  available : Int := 0

structure ConcurrentTransactions where
  read : Tickets := {}
  write : Tickets := {}

structure WiredTiger where
  cache : Cache := {}
  transaction : Transactions := {}
  concurrent : ConcurrentTransactions := {}

structure Flushing where
  flushes : Int := 0

/-- Memory sizes in megabytes. -/
structure Memory where
  supported : Bool := false
  mapped : Int := 0
  virtual : Int := 0
  resident : Int := 0

structure ExtraInfo where
  pageFaults : Option Int := none

structure DocumentMetrics where
  returned : Int := 0
  inserted : Int := 0
  updated : Int := 0
  deleted : Int := 0

structure OperationCounts where
  scanAndOrder : Int := 0
  writeConflicts : Int := 0

structure QueryExecutor where
  scanned : Int := 0
  scannedObjects : Int := 0

structure RecordCounts where
  moves : Int := 0

/-- The times that writes waited for acknowledgement. -/
structure WaitTimes where
  count : Int := 0
  totalMillis : Int := 0

structure GetLastError where
  waitTimes : WaitTimes := {}
  timeouts : Int := 0

structure Metrics where
  document : DocumentMetrics := {}
  operation : OperationCounts := {}
  queryExecutor : QueryExecutor := {}
  record : RecordCounts := {}
  getLastError : GetLastError := {}

/-- The accumulated microseconds and the number of operations. -/
structure Latency where
  latency : Int := 0
  operations : Int := 0

structure Latencies where
  reads : Latency := {}
  writes : Latency := {}
  commands : Latency := {}

structure Clients where
  total : Int := 0
  readers : Int := 0
  writers : Int := 0

structure GlobalLock where
  totalTime : Int := 0
  lockTime : Int := 0
  currentQueue : Option Clients := none
  activeClients : Option Clients := none

structure Network where
  bytesIn : Int := 0
  bytesOut : Int := 0
  requests : Int := 0

structure Connections where
  current : Int := 0
  available : Int := 0
  totalCreated : Int := 0

/-- The replication state. Its flags are of different types in different server versions. -/
structure Replication where
  setName : String := ""
  isMaster : Option Value := none
  secondary : Option Value := none
  isReplicaSet : Option Value := none
  arbiterOnly : Option Value := none
  passives : List String := []
  me : String := ""

/-- The sections of a server status that the stat line reads. -/
structure Status where
  host : String := ""
  version : String := ""
  process : String := ""
  uptimeMillis : Int := 0
  shardCursorType : Option Value := none
  storageEngine : Option StorageEngine := none
  opcounters : Option Opcounters := none
  opcountersRepl : Option Opcounters := none
  wiredTiger : Option WiredTiger := none
  backgroundFlushing : Option Flushing := none
  memory : Option Memory := none
  extraInfo : Option ExtraInfo := none
  metrics : Option Metrics := none
  latencies : Option Latencies := none
  globalLock : Option GlobalLock := none
  locks : Option (Table LockUsage.Statistics) := none
  network : Network := {}
  connections : Connections := {}
  replication : Option Replication := none

/-- A status with the moment it was read at. -/
structure Sample where
  time : Time.Moment
  /-- The number of processor cores of the server, zero if it is unknown. -/
  cores : Int
  status : Status
  /-- The whole reply. -/
  reply : Value

end LoadWatch.ServerStatus
