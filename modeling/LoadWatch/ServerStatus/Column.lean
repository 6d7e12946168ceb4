/-
  ServerStatus/Column.lean --- the columns of the stat line.

  The registry lists the columns in the order in which they are shown, with the
  servers that each of them suits.  A column that is asked for by name is the
  one of the registry with that key, or else the field with that path.
-/
import LoadWatch.ServerStatus.Cells
import LoadWatch.ServerStatus.Path

set_option autoImplicit false

namespace LoadWatch.ServerStatus

/-! ## Capabilities -/

/-- What a server and the options allow for. -/
structure Capabilities where
  wiredTiger : Bool
  mmap : Bool
  mongos : Bool
  replicaSet : Bool
  locks : Bool
  collectionLocks : Bool
  metrics : Bool
  opLatencies : Bool
  multipleHosts : Bool
  all : Bool
  deriving DecidableEq

/-- What the server of a status and the options allow for. -/
def Capabilities.of (status : Status) (options : RenderOptions) : Capabilities where
  wiredTiger := status.isCached
  mmap := status.isMapped
  mongos := status.isRouter
  replicaSet := status.isReplicaSetMember
  locks := hasLocks status
  collectionLocks := hasCollectionLocks status
  metrics := status.metrics.isSome
  opLatencies := status.latencies.isSome
  multipleHosts := options.multipleHosts
  all := options.all

/-! ## The registry -/

/-- A column of the registry. -/
structure Column where
  key : String
  name : String
  /-- The column suits a server. -/
  active : Capabilities → Bool
  /-- The cell for the current and the previous sample. -/
  read : CellSettings → Sample → Sample → Except ArithmeticFault String

/-- A cell that can always be shown. -/
def total (cell : CellSettings → Sample → Sample → String) (settings : CellSettings)
    (current previous : Sample) : Except ArithmeticFault String :=
  .ok (cell settings current previous)

/-- A cell made from two samples. -/
def fromSamples (cell : Sample → Sample → String) :
    CellSettings → Sample → Sample → Except ArithmeticFault String :=
  total fun _ => cell

/-- A cell made from the statuses of two samples. -/
def fromStatuses (cell : Status → Status → String) :
    CellSettings → Sample → Sample → Except ArithmeticFault String :=
  total fun _ current previous => cell current.status previous.status

/-- A cell made from the status of the current sample. -/
def fromStatus (cell : Status → String) :
    CellSettings → Sample → Sample → Except ArithmeticFault String :=
  total fun _ current _ => cell current.status

/-- A cell made from the status of the current sample, with amounts. -/
def fromSettings (cell : CellSettings → Status → String) :
    CellSettings → Sample → Sample → Except ArithmeticFault String :=
  total fun settings current _ => cell settings current.status

/-- Every server. -/
def always : Capabilities → Bool := fun _ => true

/-- No server; the column is only shown when it is asked for. -/
def onRequest : Capabilities → Bool := fun _ => false

/-- The columns in the order in which they are shown. -/
def columns : List Column := [
  ⟨"host", "Host", Capabilities.multipleHosts, fromStatus Status.host⟩,
  ⟨"storage_engine", "Storage engine", onRequest, fromStatus Status.engineName⟩,
  ⟨"insert", "Insert opcounter (diff)", always,
    fromSamples (operations Opcounters.insert false)⟩,
  ⟨"query", "Query opcounter (diff)", always, fromSamples (operations Opcounters.query false)⟩,
  ⟨"update", "Update opcounter (diff)", always,
    fromSamples (operations Opcounters.update false)⟩,
  ⟨"delete", "Delete opcounter (diff)", always,
    fromSamples (operations Opcounters.delete false)⟩,
  ⟨"getmore", "GetMore opcounter (diff)", always, fromSamples getmores⟩,
  ⟨"command", "Command opcounter (diff)", always,
    fromSamples (operations Opcounters.command true)⟩,
  ⟨"dirty", "Cache dirty (percentage)", Capabilities.wiredTiger,
    total fun settings current _ => cachePart Cache.dirtyBytes settings current⟩,
  ⟨"used", "Cache used (percentage)", Capabilities.wiredTiger,
    total fun settings current _ => cachePart Cache.currentBytes settings current⟩,
  ⟨"read", "Cache bytes read into (diff)", Capabilities.wiredTiger,
    total fun settings => cacheRate Cache.bytesReadInto settings.bytes⟩,
  ⟨"written", "Cache bytes written from (diff)", Capabilities.wiredTiger,
    total fun settings => cacheRate Cache.bytesWrittenFrom settings.bytes⟩,
  ⟨"pread", "Cache pages read into (diff)", Capabilities.wiredTiger,
    fromSamples (cacheRate Cache.pagesReadInto decimal)⟩,
  ⟨"preq", "Cache pages requested (diff)", Capabilities.wiredTiger,
    fromSamples (cacheRate Cache.pagesRequested decimal)⟩,
  ⟨"pwritten", "Cache pages written from (diff)", Capabilities.wiredTiger,
    fromSamples (cacheRate Cache.pagesWrittenFrom decimal)⟩,
  ⟨"pagehit%", "Cache page hit ratio (percentage)", Capabilities.wiredTiger,
    fromSamples pageHitRatio⟩,
  ⟨"evict-um", "Cache unmodified pages evicted (diff)", Capabilities.wiredTiger,
    fromSamples (cacheRate Cache.unmodifiedEvicted decimal)⟩,
  ⟨"evict-m", "Cache modified pages evicted (diff)", Capabilities.wiredTiger,
    fromSamples (cacheRate Cache.modifiedEvicted decimal)⟩,
  ⟨"evict-i", "Cache internal pages evicted (diff)", Capabilities.wiredTiger,
    fromSamples (cacheRate Cache.internalEvicted decimal)⟩,
  ⟨"r%|w%|em%|eum%", "Cache page stats (percentage)", Capabilities.wiredTiger,
    fromSamples pageParts⟩,
  ⟨"flushes", "Number of flushes (diff)", always,
    fromStatuses fun current previous => decimal (flushes current previous)⟩,
  ⟨"mapped", "Mapped (size)", Capabilities.mmap,
    fromSettings fun settings status =>
      memorySize Memory.mapped status.isRouter settings status⟩,
  ⟨"vsize", "Virtual (size)", always, fromSettings (memorySize Memory.virtual true)⟩,
  ⟨"res", "Resident (size)", always, fromSettings (memorySize Memory.resident true)⟩,
  ⟨"nonmapped", "Non-mapped (size)", fun server => server.mmap && server.all,
    fromSettings fun settings status =>
      memorySize (fun memory => wrapInt64 (memory.virtual - memory.mapped)) (!status.isRouter)
        settings status⟩,
  ⟨"faults", "Page faults (diff)", Capabilities.mmap, fromSamples pageFaults⟩,
  ⟨"lrw", "Lock acquire count, read|write (diff percentage)",
    fun server => server.mmap && server.collectionLocks && server.all, fromStatuses lockWaits⟩,
  ⟨"lrwt", "Lock acquire time, read|write (diff percentage)",
    fun server => server.mmap && server.collectionLocks && server.all,
    fun _ current previous => lockWaitTimes current.status previous.status⟩,
  ⟨"locked_db", "Locked db info, '(db):(percentage)'", Capabilities.locks,
    fromStatuses lockedDatabase⟩,
  ⟨"sao", "Scan and Order (diff)", fun server => server.metrics && server.all,
    fromSamples (metricRate fun metrics => metrics.operation.scanAndOrder)⟩,
  ⟨"wc", "Write Conflicts (diff)", fun server => server.metrics && server.all,
    fromSamples (metricRate fun metrics => metrics.operation.writeConflicts)⟩,
  ⟨"ns", "NScanned (diff)", fun server => server.metrics && server.all,
    fromSamples (metricRate fun metrics => metrics.queryExecutor.scanned)⟩,
  ⟨"nso", "NScanned Objects (diff)", fun server => server.metrics && server.all,
    fromSamples (metricRate fun metrics => metrics.queryExecutor.scannedObjects)⟩,
  ⟨"effic", "Query Efficiency: max(nscanned, nscannedObjects)/nreturned (ratio)",
    fun server => server.metrics && server.all, fromSamples queryEfficiency⟩,
  ⟨"r|i|u|d", "Document metrics Returned|Inserted|Updated|Deleted (diff)",
    fun server => server.metrics && server.all, fromSamples documentRates⟩,
  ⟨"moves", "Document moves (diff)",
    fun server => server.metrics && server.mmap && server.all,
    fromSamples (metricRate fun metrics => metrics.record.moves)⟩,
  ⟨"gleto", "Get Last Error timeouts (diff)", fun server => server.metrics && server.all,
    fromSamples (metricRate fun metrics => metrics.getLastError.timeouts)⟩,
  ⟨"glems", "Average time waiting for GLE (millis)",
    fun server => server.metrics && server.all, fun _ => acknowledgementMillis⟩,
  ⟨"r|w|c", "Average execution time per read/write/command (millis)",
    Capabilities.opLatencies, fun _ => latencyMillis⟩,
  ⟨"r%|w%|c%", "Average utilization percent per read/write/command (diff percentage)",
    Capabilities.opLatencies, total utilization⟩,
  ⟨"qrw", "Queued accesses, read|write", always, fromStatus queuedClients⟩,
  ⟨"arw", "Active accesses, read|write", always, fromStatus activeClients⟩,
  ⟨"net_in", "Network input (size)", always, total (traffic Network.bytesIn)⟩,
  ⟨"net_out", "Network output (size)", always, total (traffic Network.bytesOut)⟩,
  ⟨"conn", "Current connection count", always,
    fromStatus fun status => decimal status.connections.current⟩,
  ⟨"set", "Replica set name", Capabilities.replicaSet, fromStatus replicaSetName⟩,
  ⟨"repl", "Replica set type", Capabilities.replicaSet, fromStatus Status.replicationRole⟩,
  ⟨"time", "Time of sample", always,
    total fun settings current _ => sampleTime settings current⟩]

/-! ## Selection -/

/-- A column of the stat line. -/
inductive Selection where
  /-- A column of the registry. -/
  | registered (column : Column)
  /-- The field of the reply with the given path. -/
  | field (path : String)

namespace Selection

/-- The selection that a key stands for: the column of the registry, else a path. -/
def ofKey (key : String) : Selection :=
  match columns.find? fun column => column.key = key with
  | some column => .registered column
  | none => .field key

/-- The key of the column. -/
def key : Selection → String
  | .registered column => column.key
  | .field path => path

/-- The cell for the current and the previous sample. -/
def read (settings : CellSettings) (current previous : Sample) :
    Selection → Except ArithmeticFault String
  | .registered column => column.read settings current previous
  | .field path => .ok (pathCell path current previous)

end Selection

/-- The columns to show: those that are asked for, or those that suit the server. -/
def selections (status : Status) (options : RenderOptions) : List Selection :=
  match options.fields with
  | some keys => keys.map Selection.ofKey
  | none =>
    let server := Capabilities.of status options
    (columns.filter fun column => column.active server).map Selection.registered

/-! ## Description -/

/-- The width of the longest key. -/
def keyWidth : Nat := columns.foldl (fun width column => max width column.key.length) 0

/-- The line that describes a column: its key, in a field of its own, and its name. -/
def Column.description (column : Column) : String :=
  column.key ++ "".pushn ' ' (keyWidth - column.key.length) ++ "  " ++ column.name

/-- The descriptions of all columns, one per line. -/
def describeColumns : String := "\n".intercalate (columns.map Column.description)

end LoadWatch.ServerStatus
