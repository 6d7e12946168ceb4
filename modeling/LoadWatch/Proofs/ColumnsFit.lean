/-
  Proofs/ColumnsFit.lean --- which columns are shown without a value.

  WHAT THIS FILE IS FOR.  A column is shown where it suits the server, and its
  cell is empty where the server reports nothing to show.  The registry says the
  one, the cells decide the other, each with conditions of its own.  Here the
  two are compared for a server that reports what its role and its storage
  engine promise (`Complete`).

  They agree but for two columns.  Both are about mapped memory, and what
  decides is whether the server is a router: the registry does not ask, the
  cells do (`LeftEmpty`).

  The sample is compared with itself, so that nothing depends on what happens
  between two samples.

  Main result: `shown_cells_filled`.
-/
import LoadWatch.Proofs.FailingCells

set_option autoImplicit false

namespace LoadWatch

/-! ## Texts that are never empty -/

@[simp] theorem decimal_ne_empty (n : Int) : decimal n ≠ "" := by
  have hdigits : Json.integerText n ≠ [] := by
    simp [Json.integerText, Nat.toDigits_ne_nil]
  intro h
  exact hdigits (String.ofList_eq_empty_iff.mp h)

@[simp] theorem Binary64.fixed_ne_empty (places : Nat) (x : Binary64) : x.fixed places ≠ "" := by
  cases x with
  | nan => simp [fixed]
  | infinite negative => cases negative <;> simp [fixed]
  | finite negative units magnitude =>
    have hdigits : fixedDigits (scaledMagnitude units places) places ≠ [] := by
      simp [fixedDigits, Nat.toDigits_ne_nil]
    intro h
    exact hdigits (List.append_eq_nil_iff.mp (String.ofList_eq_empty_iff.mp h)).2

theorem Units.format_ne_empty (base : Nat) (units : List String) (amount : Int) :
    Units.format base units amount ≠ "" := by
  unfold Units.format
  dsimp only
  split <;> simp

namespace ServerStatus

namespace CellSettings

variable (settings : CellSettings) (amount : Int)

@[simp] theorem bits_ne_empty : settings.bits amount ≠ "" := by
  unfold bits Units.bits
  split
  · exact Units.format_ne_empty _ _ _
  · exact decimal_ne_empty amount

@[simp] theorem bytes_ne_empty : settings.bytes amount ≠ "" := by
  unfold bytes Units.bytes
  split
  · exact Units.format_ne_empty _ _ _
  · exact decimal_ne_empty amount

@[simp] theorem megabytes_ne_empty : settings.megabytes amount ≠ "" := by
  unfold megabytes Units.megabytes Units.bytes
  split
  · exact Units.format_ne_empty _ _ _
  · exact decimal_ne_empty _

end CellSettings

@[simp] theorem percentCell_ne_empty (value outOf : Int) : percentCell value outOf ≠ "" := by
  simp [percentCell]

@[simp] theorem pairCell_ne_empty (left right : Int) : pairCell left right ≠ "" := by
  simp [pairCell]

/-! ## Cells that every server has -/

section Always

variable (settings : CellSettings) (current previous : Sample)

theorem operations_ne_empty (select : Opcounters → Int) (both : Bool) :
    operations select both current previous ≠ "" := by
  unfold operations
  dsimp only
  split
  · simp
  · split
    · simp
    · split <;> simp

theorem getmores_ne_empty : getmores current previous ≠ "" := decimal_ne_empty _

theorem pageFaults_ne_empty : pageFaults current previous ≠ "" := by
  unfold pageFaults
  split
  · decide
  · split
    · simp
    · decide

theorem queuedClients_ne_empty (status : Status) : queuedClients status ≠ "" := by
  unfold queuedClients
  split
  · simp
  · split <;> simp

theorem activeClients_ne_empty (status : Status) : activeClients status ≠ "" := by
  unfold activeClients
  split
  · simp
  · split
    · simp
    · split <;> simp

theorem traffic_ne_empty (select : Network → Int) :
    traffic select settings current previous ≠ "" := settings.bits_ne_empty _

theorem sampleTime_ne_empty (sample : Sample) : sampleTime settings sample ≠ "" := by
  unfold sampleTime
  split
  · simp [Time.Moment.shortText]
  · simp [Time.Moment.text]

end Always

/-! ## Cells of sections that a server has -/

/-- The server reports what its role and its storage engine promise, and the sizes of its memory:
it has a name, the size of its cache is configured, and its replica set has a name. -/
structure Complete (status : Status) : Prop where
  host : status.host ≠ ""
  memory : ∃ memory, status.memory = some memory ∧ memory.supported = true
  cache : status.isCached = true →
    ∃ engine, status.wiredTiger = some engine ∧ engine.cache.maxBytes ≠ 0
  setName : status.isReplicaSetMember = true →
    ∃ replication, status.replication = some replication ∧ replication.setName ≠ ""

section Sections

variable {settings : CellSettings} {sample : Sample}

theorem cachePart_ne_empty (complete : Complete sample.status)
    (h : sample.status.isCached = true) (select : Cache → Int) :
    cachePart select settings sample ≠ "" := by
  obtain ⟨engine, hengine, hsize⟩ := complete.cache h
  rw [cachePart, hengine]
  dsimp only
  rw [cacheFraction, if_neg hsize]
  simp

theorem withCaches_ne_empty (complete : Complete sample.status)
    (h : sample.status.isCached = true) {cell : Cache → Cache → String}
    (hcell : ∀ cache, cell cache cache ≠ "") : withCaches cell sample sample ≠ "" := by
  obtain ⟨engine, hengine, -⟩ := complete.cache h
  rw [withCaches, hengine]
  exact hcell engine.cache

theorem cacheRate_ne_empty (complete : Complete sample.status)
    (h : sample.status.isCached = true) {select : Cache → Int} {format : Int → String}
    (hformat : ∀ amount, format amount ≠ "") : cacheRate select format sample sample ≠ "" :=
  withCaches_ne_empty complete h fun _ => hformat _

theorem withMetrics_ne_empty (h : sample.status.metrics.isSome = true)
    {cell : Metrics → Metrics → String} (hcell : ∀ metrics, cell metrics metrics ≠ "") :
    withMetrics cell sample sample ≠ "" := by
  obtain ⟨metrics, hsome⟩ := Option.isSome_iff_exists.mp h
  rw [withMetrics, hsome]
  exact hcell metrics

theorem metricRate_ne_empty (h : sample.status.metrics.isSome = true) (select : Metrics → Int) :
    metricRate select sample sample ≠ "" :=
  withMetrics_ne_empty h fun _ => decimal_ne_empty _

theorem utilization_ne_empty (h : sample.status.latencies.isSome = true) :
    utilization settings sample sample ≠ "" := by
  obtain ⟨latencies, hsome⟩ := Option.isSome_iff_exists.mp h
  rw [utilization, hsome]
  simp

/-- A memory size is shown exactly if it is to be. -/
theorem memorySize_eq_empty_iff (complete : Complete sample.status) (select : Memory → Int)
    (shown : Bool) : memorySize select shown settings sample.status = "" ↔ shown = false := by
  obtain ⟨memory, hmemory, hsupported⟩ := complete.memory
  rw [memorySize, hmemory]
  dsimp only
  rw [hsupported]
  cases shown <;> simp

theorem memorySize_ne_empty (complete : Complete sample.status) (select : Memory → Int) :
    memorySize select true settings sample.status ≠ "" := by
  rw [Ne, memorySize_eq_empty_iff complete]
  decide

theorem lockedDatabase_ne_empty (h : hasLocks sample.status = true) :
    lockedDatabase sample.status sample.status ≠ "" := of_decide_eq_true h

theorem lockWaits_ne_empty (h : hasCollectionLocks sample.status = true) :
    lockWaits sample.status sample.status ≠ "" := by
  obtain ⟨locks, hlocks⟩ := Option.isSome_iff_exists.mp h
  rw [lockWaits, hlocks]
  simp

theorem replicationRole_ne_empty (h : sample.status.isReplicaSetMember = true) :
    sample.status.replicationRole ≠ "" := by
  unfold Status.replicationRole
  split
  · rename_i hnone
    rw [Status.isReplicaSetMember, hnone] at h
    cases h
  · repeat' split
    all_goals decide

theorem replicaSetName_ne_empty (complete : Complete sample.status)
    (h : sample.status.isReplicaSetMember = true) : replicaSetName sample.status ≠ "" := by
  obtain ⟨replication, hreplication, hname⟩ := complete.setName h
  rw [replicaSetName, hreplication]
  exact hname

end Sections

/-! ## Averages of a sample with itself -/

section Averages

variable {sample : Sample}

theorem average_sub_self (value count : Int) : average (value - value) (count - count) = .ok 0 := by
  simp [average]

theorem acknowledgementMillis_self (h : sample.status.metrics.isSome = true) :
    acknowledgementMillis sample sample = .ok (decimal 0) := by
  obtain ⟨metrics, hsome⟩ := Option.isSome_iff_exists.mp h
  rw [acknowledgementMillis, hsome]
  dsimp only
  rw [average_sub_self]
  rfl

theorem averageMillis_self (latency : Latency) :
    averageMillis latency latency = .ok (decimal 0) := by
  rw [averageMillis, average_sub_self]
  rfl

theorem latencyMillis_self (h : sample.status.latencies.isSome = true) :
    latencyMillis sample sample = .ok (decimal 0 ++ "|" ++ decimal 0 ++ "|" ++ decimal 0) := by
  obtain ⟨latencies, hsome⟩ := Option.isSome_iff_exists.mp h
  rw [latencyMillis, hsome]
  dsimp only
  rw [averageMillis_self, averageMillis_self, averageMillis_self]
  rfl

/-- The collection locks of a status and of itself are the same. -/
theorem collectionLocks?_self {status : Status} {locks : CollectionLocks}
    (h : collectionLocks? status status = some locks) : locks.current = locks.previous := by
  unfold collectionLocks? at h
  repeat' split at h
  all_goals cases h
  rename_i hnow hearlier _
  exact Option.some.inj (hnow.symm.trans hearlier)

theorem lockWaitTimes_self {status : Status} (h : hasCollectionLocks status = true) :
    lockWaitTimes status status = .ok (decimal 0 ++ "|" ++ decimal 0) := by
  obtain ⟨locks, hlocks⟩ := Option.isSome_iff_exists.mp h
  have hself := collectionLocks?_self hlocks
  rw [lockWaitTimes, hlocks]
  dsimp only [CollectionLocks.waits]
  rw [hself, average_sub_self, average_sub_self]
  rfl

end Averages

/-! ## The registry -/

/-- The cell is empty although its column suits the server: mapped memory is shown for routers
only, and what is not mapped for all others. -/
def LeftEmpty (key : String) (status : Status) : Prop :=
  key = "mapped" ∧ status.isRouter = false ∨ key = "nonmapped" ∧ status.isRouter = true

/-- A column that suits the server has a value, unless its cell is left empty. -/
def Fits (settings : CellSettings) (sample : Sample) (server : Capabilities) (column : Column) :
    Prop :=
  column.active server = true → ∃ cell, column.read settings sample sample = .ok cell ∧
    (cell = "" ↔ LeftEmpty column.key sample.status)

section Registry

variable {settings : CellSettings} {sample : Sample} {server : Capabilities} {key name : String}
  {active : Capabilities → Bool}

theorem not_leftEmpty (hkey : key ∉ ["mapped", "nonmapped"]) (status : Status) :
    ¬LeftEmpty key status := by
  rintro (⟨rfl, -⟩ | ⟨rfl, -⟩)
  · exact hkey (by decide)
  · exact hkey (by decide)

/-- A cell that is not about mapped memory fits if it is not empty. -/
theorem fits_of_read {read : CellSettings → Sample → Sample → Except ArithmeticFault String}
    (hkey : key ∉ ["mapped", "nonmapped"])
    (h : active server = true → ∃ cell, read settings sample sample = .ok cell ∧ cell ≠ "") :
    Fits settings sample server ⟨key, name, active, read⟩ := by
  intro hactive
  obtain ⟨cell, hread, hne⟩ := h hactive
  exact ⟨cell, hread, iff_of_false hne (not_leftEmpty hkey sample.status)⟩

theorem fits_total {cell : CellSettings → Sample → Sample → String}
    (hkey : key ∉ ["mapped", "nonmapped"])
    (h : active server = true → cell settings sample sample ≠ "") :
    Fits settings sample server ⟨key, name, active, total cell⟩ :=
  fits_of_read hkey fun hactive => ⟨_, rfl, h hactive⟩

theorem fits_mapped (complete : Complete sample.status) :
    Fits settings sample server ⟨"mapped", name, active, fromSettings fun settings status =>
      memorySize Memory.mapped status.isRouter settings status⟩ := by
  refine fun _ => ⟨_, rfl, ?_⟩
  rw [memorySize_eq_empty_iff complete]
  simp [LeftEmpty]

theorem fits_nonmapped (complete : Complete sample.status) :
    Fits settings sample server ⟨"nonmapped", name, active, fromSettings fun settings status =>
      memorySize (fun memory => wrapInt64 (memory.virtual - memory.mapped)) (!status.isRouter)
        settings status⟩ := by
  refine fun _ => ⟨_, rfl, ?_⟩
  rw [memorySize_eq_empty_iff complete]
  simp [LeftEmpty]

end Registry

theorem fits_of_mem {sample : Sample} (complete : Complete sample.status)
    (settings : CellSettings) (options : RenderOptions) :
    ∀ column ∈ columns, Fits settings sample (.of sample.status options) column := by
  have metrics {server : Capabilities} (h : (server.metrics && server.all) = true) :
      server.metrics = true := (Bool.and_eq_true_iff.mp h).1
  have moves {server : Capabilities} (h : (server.metrics && server.mmap && server.all) = true) :
      server.metrics = true := (Bool.and_eq_true_iff.mp (Bool.and_eq_true_iff.mp h).1).1
  have locks {server : Capabilities}
      (h : (server.mmap && server.collectionLocks && server.all) = true) :
      server.collectionLocks = true := (Bool.and_eq_true_iff.mp (Bool.and_eq_true_iff.mp h).1).2
  simp only [columns, List.forall_mem_cons]
  exact ⟨
    -- The host and its storage engine.
    fits_total (by decide) fun _ => complete.host,
    fits_total (by decide) fun h => absurd h Bool.false_ne_true,
    -- Operations.
    fits_total (by decide) fun _ => operations_ne_empty _ _ _ _,
    fits_total (by decide) fun _ => operations_ne_empty _ _ _ _,
    fits_total (by decide) fun _ => operations_ne_empty _ _ _ _,
    fits_total (by decide) fun _ => operations_ne_empty _ _ _ _,
    fits_total (by decide) fun _ => getmores_ne_empty _ _,
    fits_total (by decide) fun _ => operations_ne_empty _ _ _ _,
    -- The cache.
    fits_total (by decide) fun h => cachePart_ne_empty complete h _,
    fits_total (by decide) fun h => cachePart_ne_empty complete h _,
    fits_total (by decide) fun h => cacheRate_ne_empty complete h settings.bytes_ne_empty,
    fits_total (by decide) fun h => cacheRate_ne_empty complete h settings.bytes_ne_empty,
    fits_total (by decide) fun h => cacheRate_ne_empty complete h decimal_ne_empty,
    fits_total (by decide) fun h => cacheRate_ne_empty complete h decimal_ne_empty,
    fits_total (by decide) fun h => cacheRate_ne_empty complete h decimal_ne_empty,
    fits_total (by decide) fun h =>
      withCaches_ne_empty complete h fun _ => percentCell_ne_empty _ _,
    fits_total (by decide) fun h => cacheRate_ne_empty complete h decimal_ne_empty,
    fits_total (by decide) fun h => cacheRate_ne_empty complete h decimal_ne_empty,
    fits_total (by decide) fun h => cacheRate_ne_empty complete h decimal_ne_empty,
    fits_total (by decide) fun h => withCaches_ne_empty complete h fun _ => by simp,
    -- Flushes and memory.
    fits_total (by decide) fun _ => decimal_ne_empty _,
    fits_mapped complete,
    fits_total (by decide) fun _ => memorySize_ne_empty complete _,
    fits_total (by decide) fun _ => memorySize_ne_empty complete _,
    fits_nonmapped complete,
    fits_total (by decide) fun _ => pageFaults_ne_empty _ _,
    -- Locks.
    fits_total (by decide) fun h => lockWaits_ne_empty (locks h),
    fits_of_read (by decide) fun h => ⟨_, lockWaitTimes_self (locks h), by simp⟩,
    fits_total (by decide) fun h => lockedDatabase_ne_empty h,
    -- Metrics.
    fits_total (by decide) fun h => metricRate_ne_empty (metrics h) _,
    fits_total (by decide) fun h => metricRate_ne_empty (metrics h) _,
    fits_total (by decide) fun h => metricRate_ne_empty (metrics h) _,
    fits_total (by decide) fun h => metricRate_ne_empty (metrics h) _,
    fits_total (by decide) fun h =>
      withMetrics_ne_empty (metrics h) fun _ => Binary64.fixed_ne_empty _ _,
    fits_total (by decide) fun h => withMetrics_ne_empty (metrics h) fun _ => by simp,
    fits_total (by decide) fun h => metricRate_ne_empty (moves h) _,
    fits_total (by decide) fun h => metricRate_ne_empty (metrics h) _,
    fits_of_read (by decide) fun h => ⟨_, acknowledgementMillis_self (metrics h), by simp⟩,
    -- Latencies.
    fits_of_read (by decide) fun h => ⟨_, latencyMillis_self h, by simp⟩,
    fits_total (by decide) fun h => utilization_ne_empty h,
    -- Clients, network and replica set.
    fits_total (by decide) fun _ => queuedClients_ne_empty _,
    fits_total (by decide) fun _ => activeClients_ne_empty _,
    fits_total (by decide) fun _ => traffic_ne_empty _ _ _ _,
    fits_total (by decide) fun _ => traffic_ne_empty _ _ _ _,
    fits_total (by decide) fun _ => decimal_ne_empty _,
    fits_total (by decide) fun h => replicaSetName_ne_empty complete h,
    fits_total (by decide) fun h => replicationRole_ne_empty h,
    -- The time.
    fits_total (by decide) fun _ => sampleTime_ne_empty _ _,
    fun _ h => absurd h List.not_mem_nil⟩

/-- What is shown without a selection is what the server is suited by. -/
theorem read_of_mem_selections {sample : Sample} (complete : Complete sample.status)
    (settings : CellSettings) {options : RenderOptions} (unselected : options.fields = none)
    {selection : Selection} (h : selection ∈ selections sample.status options) :
    ∃ cell, selection.read settings sample sample = .ok cell ∧
      (cell = "" ↔ LeftEmpty selection.key sample.status) := by
  rw [selections, unselected] at h
  obtain ⟨column, hcolumn, rfl⟩ := List.mem_map.mp h
  obtain ⟨hmem, hactive⟩ := List.mem_filter.mp hcolumn
  exact fits_of_mem complete settings options column hmem hactive

/-- A complete sample and itself have cells. -/
theorem exists_cells {sample : Sample} (complete : Complete sample.status)
    {options : RenderOptions} (unselected : options.fields = none) :
    ∃ cells, (StatLine.mk sample sample).cells options = .ok cells := by
  let line : StatLine := ⟨sample, sample⟩
  cases hcells : line.cells options with
  | ok cells => exact ⟨cells, rfl⟩
  | error fault =>
    have hreads : ∀ selection ∈ selections sample.status options,
        DividesOnly (selection.read (line.settings options) sample sample) [] := by
      intro selection hselection
      obtain ⟨cell, hread, -⟩ :=
        read_of_mem_selections complete (line.settings options) unselected hselection
      rw [hread]
      exact dividesOnly_ok cell
    obtain ⟨-, hoverflow⟩ := (dividesOnly_readAll hreads fault).mp hcells
    obtain ⟨selection, -, hmem⟩ := List.mem_flatMap.mp hoverflow
    exact absurd hmem List.not_mem_nil

/-- The line of a complete sample with itself has cells, and they are empty only where the
registry and the cells do not agree on mapped memory. -/
theorem shown_cells_filled {sample : Sample} (complete : Complete sample.status)
    {options : RenderOptions} (unselected : options.fields = none) :
    ∃ cells, (StatLine.mk sample sample).cells options = .ok cells ∧
      ∀ cell ∈ cells, (cell.2 = "" ↔ LeftEmpty cell.1 sample.status) := by
  obtain ⟨cells, hcells⟩ := exists_cells complete unselected
  refine ⟨cells, hcells, fun cell hcell => ?_⟩
  obtain ⟨selection, hselection, hkey, hread⟩ := (mem_readAll_iff hcells).mp hcell
  obtain ⟨text, htext, hiff⟩ := read_of_mem_selections complete _ unselected hselection
  obtain rfl := Except.ok.inj (htext.symm.trans hread)
  rwa [← hkey]

/-- A sample with a given status, at the start of the clock. -/
def sampleOf (status : Status) : Sample := { time := ⟨0, 0⟩, cores := 0, status, reply := .null }

/-- A router that maps its files, with a replica set and metrics. -/
def mappingRouter : Status where
  host := "db-1:28017"
  process := "mongos"
  memory := some { supported := true, mapped := 160, virtual := 990, resident := 80 }
  metrics := some {}
  latencies := some {}
  replication := some { setName := "rs0" }

theorem complete_mappingRouter : Complete mappingRouter where
  host := by decide
  memory := ⟨_, rfl, rfl⟩
  cache h := absurd h (by decide)
  setName _ := ⟨_, rfl, by decide⟩

/-- Of all columns for a router only the memory that it does not map is left empty. -/
theorem mappingRouter_filled : Complete mappingRouter ∧
    ∃ cells, (StatLine.mk (sampleOf mappingRouter) (sampleOf mappingRouter)).cells
        { all := true, multipleHosts := true } = .ok cells ∧
      ∀ cell ∈ cells, (cell.2 = "" ↔ cell.1 = "nonmapped") := by
  obtain ⟨cells, hcells, hfilled⟩ := @shown_cells_filled (sampleOf mappingRouter)
    complete_mappingRouter { all := true, multipleHosts := true } rfl
  refine ⟨complete_mappingRouter, cells, hcells, fun cell hcell => ?_⟩
  rw [hfilled cell hcell]
  have hrouter : (sampleOf mappingRouter).status.isRouter = true := by decide
  simp [LeftEmpty, hrouter]

/-- A server that maps its files and reports how much of them. -/
def mappingServer : Status where
  host := "db-1:28017"
  memory := some { supported := true, mapped := 160, virtual := 990, resident := 80 }

theorem complete_mappingServer : Complete mappingServer where
  host := by decide
  memory := ⟨_, rfl, rfl⟩
  cache h := absurd h (by decide)
  setName h := absurd h (by decide)

/-- The mapped memory of such a server has a column, but nothing is shown in it. -/
theorem mappingServer_leaves_empty : Complete mappingServer ∧
    ∃ cells, (StatLine.mk (sampleOf mappingServer) (sampleOf mappingServer)).cells {} = .ok cells ∧
      ("mapped", "") ∈ cells := by
  let column : Column := ⟨"mapped", "Mapped (size)", Capabilities.mmap,
    fromSettings fun settings status => memorySize Memory.mapped status.isRouter settings status⟩
  have hcolumn : column ∈ columns :=
    List.mem_of_find?_eq_some (p := fun column => column.key = "mapped") rfl
  have hactive : column.active (.of mappingServer {}) = true := by decide
  have hselection : .registered column ∈ selections mappingServer {} :=
    List.mem_map_of_mem (List.mem_filter.mpr ⟨hcolumn, hactive⟩)
  obtain ⟨cells, hcells⟩ := @exists_cells (sampleOf mappingServer) complete_mappingServer {} rfl
  exact ⟨complete_mappingServer, cells, hcells,
    (mem_readAll_iff hcells).mpr ⟨_, hselection, rfl, rfl⟩⟩

end ServerStatus

end LoadWatch
