/-
  ServerStatus/Decode.lean --- the declared members of a server status.

  Every section has a schema: the name it has in messages, and its members in
  order of declaration.  Members that are not declared here have no influence
  on the decoded status; they can only be reached by their path.
-/
import LoadWatch.Failure
import LoadWatch.ServerStatus.Basic

set_option autoImplicit false

namespace LoadWatch.ServerStatus

open Json

/-- A counter of a section. -/
def counter {σ : Type} (name : String) (store : Int → σ → σ) : RecordField σ :=
  .of name decodeCounter store

/-- A section that is decoded with a schema and must not be null. -/
def nested {σ τ : Type} (name : String) (schema : Schema τ) (store : τ → σ → σ) : RecordField σ :=
  .of name schema.decode store

/-- A section that may be missing or null. -/
def optionalSection {σ τ : Type} (name : String) (schema : Schema τ)
    (store : Option τ → σ → σ) : RecordField σ :=
  .of name (decodeOptional schema.decode) store

def storageEngineSchema : Schema StorageEngine where
  name := "StorageEngine"
  initial := {}
  fields := [.of "name" decodeText fun text engine => { engine with name := text }]

def opcountersSchema : Schema Opcounters where
  name := "OpcountStats"
  initial := {}
  fields := [
    counter "insert" fun n counters => { counters with insert := n },
    counter "query" fun n counters => { counters with query := n },
    counter "update" fun n counters => { counters with update := n },
    counter "delete" fun n counters => { counters with delete := n },
    counter "getmore" fun n counters => { counters with getmore := n },
    counter "command" fun n counters => { counters with command := n }]

def cacheSchema : Schema Cache where
  name := "CacheStats"
  initial := {}
  fields := [
    counter "tracked dirty bytes in the cache" fun n cache => { cache with dirtyBytes := n },
    counter "bytes currently in the cache" fun n cache => { cache with currentBytes := n },
    counter "maximum bytes configured" fun n cache => { cache with maxBytes := n },
    counter "bytes read into cache" fun n cache => { cache with bytesReadInto := n },
    counter "bytes written from cache" fun n cache => { cache with bytesWrittenFrom := n },
    counter "pages read into cache" fun n cache => { cache with pagesReadInto := n },
    counter "pages requested from the cache" fun n cache => { cache with pagesRequested := n },
    counter "pages written from cache" fun n cache => { cache with pagesWrittenFrom := n },
    counter "pages currently held in the cache" fun n cache => { cache with pagesHeld := n },
    counter "unmodified pages evicted" fun n cache => { cache with unmodifiedEvicted := n },
    counter "modified pages evicted" fun n cache => { cache with modifiedEvicted := n },
    counter "internal pages evicted" fun n cache => { cache with internalEvicted := n }]

def transactionsSchema : Schema Transactions where
  name := "TransactionStats"
  initial := {}
  fields := [
    counter "transaction checkpoints" fun n transaction => { transaction with checkpoints := n }]

def ticketsSchema : Schema Tickets where
  name := "ConcurrentTransactionStats"
  initial := {}
  fields := [
    counter "out" fun n tickets => { tickets with out := n },
    counter "available" fun n tickets => { tickets with available := n }]

def concurrentTransactionsSchema : Schema ConcurrentTransactions where
  name := "ConcurrentTransactions"
  initial := {}
  fields := [
    nested "read" ticketsSchema fun tickets concurrent => { concurrent with read := tickets },
    nested "write" ticketsSchema fun tickets concurrent => { concurrent with write := tickets }]

def wiredTigerSchema : Schema WiredTiger where
  name := "WiredTiger"
  initial := {}
  fields := [
    nested "cache" cacheSchema fun cache engine => { engine with cache := cache },
    nested "transaction" transactionsSchema fun transaction engine =>
      { engine with transaction := transaction },
    nested "concurrentTransactions" concurrentTransactionsSchema fun concurrent engine =>
      { engine with concurrent := concurrent }]

def flushingSchema : Schema Flushing where
  name := "FlushStats"
  initial := {}
  fields := [counter "flushes" fun n flushing => { flushing with flushes := n }]

def memorySchema : Schema Memory where
  name := "MemStats"
  initial := {}
  fields := [
    .of "supported" decodeFlag fun flag memory => { memory with supported := flag },
    counter "mapped" fun n memory => { memory with mapped := n },
    counter "virtual" fun n memory => { memory with virtual := n },
    counter "resident" fun n memory => { memory with resident := n }]

def extraInfoSchema : Schema ExtraInfo where
  name := "ExtraInfo"
  initial := {}
  fields := [
    .of "page_faults" (decodeOptional decodeCounter) fun faults info =>
      { info with pageFaults := faults }]

def documentMetricsSchema : Schema DocumentMetrics where
  name := "DocumentStats"
  initial := {}
  fields := [
    counter "returned" fun n document => { document with returned := n },
    counter "inserted" fun n document => { document with inserted := n },
    counter "updated" fun n document => { document with updated := n },
    counter "deleted" fun n document => { document with deleted := n }]

def operationCountsSchema : Schema OperationCounts where
  name := "OperationStats"
  initial := {}
  fields := [
    counter "scanAndOrder" fun n operation => { operation with scanAndOrder := n },
    counter "writeConflicts" fun n operation => { operation with writeConflicts := n }]

def queryExecutorSchema : Schema QueryExecutor where
  name := "QueryExecutorStats"
  initial := {}
  fields := [
    counter "scanned" fun n executor => { executor with scanned := n },
    counter "scannedObjects" fun n executor => { executor with scannedObjects := n }]

def recordCountsSchema : Schema RecordCounts where
  name := "RecordStats"
  initial := {}
  fields := [counter "moves" fun n record => { record with moves := n }]

def waitTimesSchema : Schema WaitTimes where
  name := "WaitTimeStats"
  initial := {}
  fields := [
    counter "num" fun n times => { times with count := n },
    counter "totalMillis" fun n times => { times with totalMillis := n }]

def getLastErrorSchema : Schema GetLastError where
  name := "GetLastErrorStats"
  initial := {}
  fields := [
    nested "wtime" waitTimesSchema fun times errors => { errors with waitTimes := times },
    counter "wtimeouts" fun n errors => { errors with timeouts := n }]

def metricsSchema : Schema Metrics where
  name := "MetricsStats"
  initial := {}
  fields := [
    nested "document" documentMetricsSchema fun document metrics =>
      { metrics with document := document },
    nested "operation" operationCountsSchema fun operation metrics =>
      { metrics with operation := operation },
    nested "queryExecutor" queryExecutorSchema fun executor metrics =>
      { metrics with queryExecutor := executor },
    nested "record" recordCountsSchema fun record metrics => { metrics with record := record },
    nested "getLastError" getLastErrorSchema fun errors metrics =>
      { metrics with getLastError := errors }]

def latencySchema : Schema Latency where
  name := "LatencyStats"
  initial := {}
  fields := [
    counter "latency" fun n latency => { latency with latency := n },
    counter "ops" fun n latency => { latency with operations := n }]

def latenciesSchema : Schema Latencies where
  name := "OpLatenciesStats"
  initial := {}
  fields := [
    nested "reads" latencySchema fun latency latencies => { latencies with reads := latency },
    nested "writes" latencySchema fun latency latencies => { latencies with writes := latency },
    nested "commands" latencySchema fun latency latencies =>
      { latencies with commands := latency }]

def clientsSchema : Schema Clients where
  name := "QueueStats"
  initial := {}
  fields := [
    counter "total" fun n clients => { clients with total := n },
    counter "readers" fun n clients => { clients with readers := n },
    counter "writers" fun n clients => { clients with writers := n }]

def globalLockSchema : Schema GlobalLock where
  name := "GlobalLockStats"
  initial := {}
  fields := [
    counter "totalTime" fun n lock => { lock with totalTime := n },
    counter "lockTime" fun n lock => { lock with lockTime := n },
    optionalSection "currentQueue" clientsSchema fun clients lock =>
      { lock with currentQueue := clients },
    optionalSection "activeClients" clientsSchema fun clients lock =>
      { lock with activeClients := clients }]

def networkSchema : Schema Network where
  name := "NetworkStats"
  initial := {}
  fields := [
    counter "bytesIn" fun n network => { network with bytesIn := n },
    counter "bytesOut" fun n network => { network with bytesOut := n },
    counter "numRequests" fun n network => { network with requests := n }]

def connectionsSchema : Schema Connections where
  name := "ConnectionStats"
  initial := {}
  fields := [
    counter "current" fun n connections => { connections with current := n },
    counter "available" fun n connections => { connections with available := n },
    counter "totalCreated" fun n connections => { connections with totalCreated := n }]

def replicationSchema : Schema Replication where
  name := "ReplStatus"
  initial := {}
  fields := [
    .of "setName" decodeText fun text replication => { replication with setName := text },
    .of "ismaster" (decodeOptional decodeAny) fun flag replication =>
      { replication with isMaster := flag },
    .of "secondary" (decodeOptional decodeAny) fun flag replication =>
      { replication with secondary := flag },
    .of "isreplicaset" (decodeOptional decodeAny) fun flag replication =>
      { replication with isReplicaSet := flag },
    .of "arbiterOnly" (decodeOptional decodeAny) fun flag replication =>
      { replication with arbiterOnly := flag },
    .of "passives" (decodeList decodeText) fun members replication =>
      { replication with passives := members },
    .of "me" decodeText fun text replication => { replication with me := text }]

/-- The declared members of a server status. -/
def statusSchema : Schema Status where
  name := "ServerStatus"
  initial := {}
  fields := [
    .of "host" decodeText fun text status => { status with host := text },
    .of "version" decodeText fun text status => { status with version := text },
    .of "process" decodeText fun text status => { status with process := text },
    counter "uptimeMillis" fun n status => { status with uptimeMillis := n },
    .of "shardCursorType" (decodeOptional decodeAny) fun value status =>
      { status with shardCursorType := value },
    optionalSection "storageEngine" storageEngineSchema fun engine status =>
      { status with storageEngine := engine },
    optionalSection "opcounters" opcountersSchema fun counters status =>
      { status with opcounters := counters },
    optionalSection "opcountersRepl" opcountersSchema fun counters status =>
      { status with opcountersRepl := counters },
    optionalSection "wiredTiger" wiredTigerSchema fun engine status =>
      { status with wiredTiger := engine },
    optionalSection "backgroundFlushing" flushingSchema fun flushing status =>
      { status with backgroundFlushing := flushing },
    optionalSection "mem" memorySchema fun memory status => { status with memory := memory },
    optionalSection "extra_info" extraInfoSchema fun info status =>
      { status with extraInfo := info },
    optionalSection "metrics" metricsSchema fun metrics status =>
      { status with metrics := metrics },
    optionalSection "opLatencies" latenciesSchema fun latencies status =>
      { status with latencies := latencies },
    optionalSection "globalLock" globalLockSchema fun lock status =>
      { status with globalLock := lock },
    .of "locks" (decodeOptional (decodeTable LockUsage.statisticsSchema.decode))
      fun locks status => { status with locks := locks },
    nested "network" networkSchema fun network status => { status with network := network },
    nested "connections" connectionsSchema fun connections status =>
      { status with connections := connections },
    optionalSection "repl" replicationSchema fun replication status =>
      { status with replication := replication }]

/-- The sample that a reply describes. -/
def Sample.ofReply (reply : Value) (time : Time.Moment) (cores : Int) :
    Except DecodeFault Sample :=
  match statusSchema.decode reply with
  | .ok status => .ok ⟨time, cores, status, reply⟩
  | .error mismatch => .error (.malformed mismatch)

end LoadWatch.ServerStatus
