/-
  ServerStatus/Cells.lean --- the cells of the stat line.

  Every cell is made from the current and the previous sample.  A cell whose
  section is missing in one of them is empty, or shows that nothing happened.
-/
import LoadWatch.ServerStatus.Locking

set_option autoImplicit false

namespace LoadWatch.ServerStatus

/-- How cells are shown. -/
structure CellSettings where
  cores : Int
  /-- Amounts have units. -/
  humanReadable : Bool

namespace CellSettings

/-- An amount of bytes as bits. -/
def bits (settings : CellSettings) (amount : Int) : String :=
  if settings.humanReadable then Units.bits amount else decimal amount

/-- An amount of bytes. -/
def bytes (settings : CellSettings) (amount : Int) : String :=
  if settings.humanReadable then Units.bytes amount else decimal amount

/-- An amount of megabytes. -/
def megabytes (settings : CellSettings) (amount : Int) : String :=
  if settings.humanReadable then Units.megabytes amount
  else decimal (Units.bytesOfMegabytes amount)

end CellSettings

/-! ## Operations -/

/-- The operations per second of a section that both samples have, zero otherwise. -/
def operationRate (select : Opcounters → Int) (current previous : Option Opcounters)
    (seconds : Binary64) : Int :=
  match current, previous with
  | some now, some before => rate (select now) (select before) seconds
  | _, _ => 0

/-- The operations and the replicated operations per second. Replicated ones alone are marked
with a star; where both occur, or are always to be shown, they are separated by a bar. -/
def operations (select : Opcounters → Int) (both : Bool) (current previous : Sample) : String :=
  let seconds := sampleSeconds current previous
  let own := operationRate select current.status.opcounters previous.status.opcounters seconds
  let replicated := operationRate select current.status.opcountersRepl
    previous.status.opcountersRepl seconds
  if both || (0 < own && 0 < replicated) then decimal own ++ "|" ++ decimal replicated
  else if 0 < own then decimal own
  else if 0 < replicated then "*" ++ decimal replicated
  else "*0"

/-- The requests for more documents per second. -/
def getmores (current previous : Sample) : String :=
  decimal (operationRate Opcounters.getmore current.status.opcounters
    previous.status.opcounters (sampleSeconds current previous))

/-! ## The cache -/

/-- A part of the cache size, empty without a configured size. -/
def cacheFraction (settings : CellSettings) (bytes max : Int) : String :=
  if max = 0 then ""
  else
    (Binary64.ofNat 100 * .ofInt bytes / .ofInt max).fixed 1 ++
      (if settings.humanReadable then "%" else "")

/-- A part of the cache size of the current sample. -/
def cachePart (select : Cache → Int) (settings : CellSettings) (current : Sample) : String :=
  match current.status.wiredTiger with
  | some engine => cacheFraction settings (select engine.cache) engine.cache.maxBytes
  | none => ""

/-- A cell made from the caches of both samples, empty if one of them has none. -/
def withCaches (cell : Cache → Cache → String) (current previous : Sample) : String :=
  match current.status.wiredTiger, previous.status.wiredTiger with
  | some now, some before => cell now.cache before.cache
  | _, _ => ""

/-- The change of a cache counter per second, shown with `format`. -/
def cacheRate (select : Cache → Int) (format : Int → String) (current previous : Sample) :
    String :=
  withCaches (fun now before =>
    format (rate (select now) (select before) (sampleSeconds current previous))) current previous

/-- The part of the requested pages that were in the cache. -/
def pageHitRatio : Sample → Sample → String :=
  withCaches fun now before =>
    let requested := now.pagesRequested - before.pagesRequested
    let readInto := now.pagesReadInto - before.pagesReadInto
    percentCell (requested - readInto) requested

/-- Pages read, written, evicted modified and evicted unmodified, as parts of the pages held. -/
def pageParts : Sample → Sample → String :=
  withCaches fun now before =>
    "|".intercalate [
      percentCell (now.pagesReadInto - before.pagesReadInto) now.pagesHeld,
      percentCell (now.pagesWrittenFrom - before.pagesWrittenFrom) now.pagesHeld,
      percentCell (now.modifiedEvicted - before.modifiedEvicted) now.pagesHeld,
      percentCell (now.unmodifiedEvicted - before.unmodifiedEvicted) now.pagesHeld]

/-- The checkpoints since the previous sample, or the flushes of engines without checkpoints. -/
def flushes (current previous : Status) : Int :=
  match current.wiredTiger, previous.wiredTiger with
  | some now, some before => now.transaction.checkpoints - before.transaction.checkpoints
  | _, _ =>
    match current.backgroundFlushing, previous.backgroundFlushing with
    | some now, some before => now.flushes - before.flushes
    | _, _ => 0

/-! ## Memory -/

/-- A memory size, empty where the server reports none. -/
def memorySize (select : Memory → Int) (shown : Bool) (settings : CellSettings)
    (status : Status) : String :=
  match status.memory with
  | some memory =>
    if memory.supported && shown then settings.megabytes (select memory) else ""
  | none => ""

/-- The page faults per second, `n/a` for engines that do not map files, -1 if not reported. -/
def pageFaults (current previous : Sample) : String :=
  if !current.status.isMapped then "n/a"
  else
    match current.status.extraInfo.bind ExtraInfo.pageFaults,
      previous.status.extraInfo.bind ExtraInfo.pageFaults with
    | some now, some before => decimal (rate now before (sampleSeconds current previous))
    | _, _ => "-1"

/-! ## Metrics -/

/-- A cell made from the metrics of both samples, empty if one of them has none. -/
def withMetrics (cell : Metrics → Metrics → String) (current previous : Sample) : String :=
  match current.status.metrics, previous.status.metrics with
  | some now, some before => cell now before
  | _, _ => ""

/-- The change of a metric per second. -/
def metricRate (select : Metrics → Int) (current previous : Sample) : String :=
  withMetrics (fun now before =>
    decimal (rate (select now) (select before) (sampleSeconds current previous))) current previous

/-- The keys or documents scanned, whichever are more, per document returned. -/
def queryEfficiency : Sample → Sample → String :=
  withMetrics fun now before =>
    let keys := now.queryExecutor.scanned - before.queryExecutor.scanned
    let documents := now.queryExecutor.scannedObjects - before.queryExecutor.scannedObjects
    let returned := now.document.returned - before.document.returned
    ((Binary64.ofInt keys).larger (.ofInt documents) /
      (Binary64.ofInt returned).larger (.ofNat 1)).fixed 1

/-- The documents returned, inserted, updated and deleted per second. -/
def documentRates (current previous : Sample) : String :=
  withMetrics (fun now before =>
    let perSecond := fun select : DocumentMetrics → Int =>
      decimal (rate (select now.document) (select before.document)
        (sampleSeconds current previous))
    "|".intercalate [perSecond DocumentMetrics.returned, perSecond DocumentMetrics.inserted,
      perSecond DocumentMetrics.updated, perSecond DocumentMetrics.deleted]) current previous

/-- The milliseconds that a write waited for acknowledgement on average. -/
def acknowledgementMillis (current previous : Sample) : Except ArithmeticFault String :=
  match current.status.metrics, previous.status.metrics with
  | some now, some before =>
    let newTimes := now.getLastError.waitTimes
    let oldTimes := before.getLastError.waitTimes
    (average (newTimes.totalMillis - oldTimes.totalMillis) (newTimes.count - oldTimes.count)).map
      decimal
  | _, _ => .ok ""

/-! ## Latencies -/

/-- The milliseconds that an operation took on average. -/
def averageMillis (current previous : Latency) : Except ArithmeticFault String :=
  (average (current.latency - previous.latency) (current.operations - previous.operations)).map
    fun micros => decimal (micros.tdiv 1000)

/-- The milliseconds that a read, a write and a command took on average. -/
def latencyMillis (current previous : Sample) : Except ArithmeticFault String :=
  match current.status.latencies, previous.status.latencies with
  | some now, some before =>
    (averageMillis now.reads before.reads).bind fun reads =>
      (averageMillis now.writes before.writes).bind fun writes =>
        (averageMillis now.commands before.commands).map fun commands =>
          reads ++ "|" ++ writes ++ "|" ++ commands
  | _, _ => .ok ""

/-- The time spent on reads, writes and commands per core, as parts of the elapsed time. -/
def utilization (settings : CellSettings) (current previous : Sample) : String :=
  match current.status.latencies, previous.status.latencies with
  | some now, some before =>
    let elapsed := (current.time.since previous.time).micros?.getD 0
    let part := fun select : Latencies → Latency =>
      percentCell (share ((select now).latency - (select before).latency) settings.cores) elapsed
    "|".intercalate [part Latencies.reads, part Latencies.writes, part Latencies.commands]
  | _, _ => ""

/-! ## Clients -/

/-- A pair of counts separated by a bar. -/
def pairCell (left right : Int) : String := decimal left ++ "|" ++ decimal right

/-- The readers and writers that wait. With a cache engine these are the clients without a
ticket. -/
def queuedClients (status : Status) : String :=
  match status.globalLock.bind GlobalLock.currentQueue with
  | none => pairCell 0 0
  | some queue =>
    match status.wiredTiger with
    | none => pairCell queue.readers queue.writers
    | some engine =>
      let active := (status.globalLock.bind GlobalLock.activeClients).getD {}
      pairCell
        (max 0 (wrapInt64 (queue.readers + active.readers - engine.concurrent.read.out)))
        (max 0 (wrapInt64 (queue.writers + active.writers - engine.concurrent.write.out)))

/-- The readers and writers at work. -/
def activeClients (status : Status) : String :=
  match status.globalLock with
  | none => pairCell 0 0
  | some lock =>
    match status.wiredTiger with
    | some engine => pairCell engine.concurrent.read.out engine.concurrent.write.out
    | none =>
      match lock.activeClients with
      | some active => pairCell active.readers active.writers
      | none => pairCell 0 0

/-! ## Network and time -/

/-- The traffic per second in bits. -/
def traffic (select : Network → Int) (settings : CellSettings) (current previous : Sample) :
    String :=
  settings.bits (rate (select current.status.network) (select previous.status.network)
    (sampleSeconds current previous))

/-- The name of the replica set, empty outside of one. -/
def replicaSetName (status : Status) : String :=
  match status.replication with
  | some replication => replication.setName
  | none => ""

/-- The moment of the sample. -/
def sampleTime (settings : CellSettings) (sample : Sample) : String :=
  if settings.humanReadable then sample.time.shortText else sample.time.text

end LoadWatch.ServerStatus
