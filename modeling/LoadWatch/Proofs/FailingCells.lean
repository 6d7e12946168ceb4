/-
  Proofs/FailingCells.lean --- when a stat line has no cells.

  WHAT THIS FILE IS FOR.  The cells of a stat line are read one by one, and the
  first that has no value leaves the line without cells.  Here it is shown that
  only averages can have none, for which of their operands that is so, and what
  the fault is then (`DividesOnly`), whatever columns are selected.

  The columns with averages are the waits for acknowledgements, the waits for
  collection locks and the latencies; `averages` lists what they divide by what.
  Every other column of the registry can always be read (`Reads`), and so can a
  field that is selected by its path.

  A key selects the same column wherever it comes from (`ofKey_key`), and the
  cells of a line are those of its columns, in order (`forall₂_of_readAll`).

  Main results: `dividesOnly_cells` and, for a line as a whole, `fails_cells`.
-/
import Mathlib.Data.List.Nodup
import LoadWatch.ServerStatus.StatLine

set_option autoImplicit false

namespace LoadWatch.ServerStatus

/-! ## Averages -/

/-- The quotient that 64 bits do not hold. -/
def overflow : Int × Int := (minInt64, -1)

/-- What the column on acknowledgements divides. -/
def acknowledgementAverages (current previous : Status) : List (Int × Int) :=
  match current.metrics, previous.metrics with
  | some now, some before =>
    [(now.getLastError.waitTimes.totalMillis - before.getLastError.waitTimes.totalMillis,
      now.getLastError.waitTimes.count - before.getLastError.waitTimes.count)]
  | _, _ => []

/-- What the column on waits for collection locks divides. -/
def lockWaitAverages (current previous : Status) : List (Int × Int) :=
  match collectionLocks? current previous with
  | none => []
  | some locks =>
    [(locks.current.timeAcquiring.read - locks.previous.timeAcquiring.read,
        locks.waits.1.read - locks.waits.2.read),
      (locks.current.timeAcquiring.write - locks.previous.timeAcquiring.write,
        locks.waits.1.write - locks.waits.2.write)]

/-- What the column on latencies divides. -/
def latencyAverages (current previous : Status) : List (Int × Int) :=
  match current.latencies, previous.latencies with
  | some now, some before =>
    [(now.reads.latency - before.reads.latency, now.reads.operations - before.reads.operations),
      (now.writes.latency - before.writes.latency,
        now.writes.operations - before.writes.operations),
      (now.commands.latency - before.commands.latency,
        now.commands.operations - before.commands.operations)]
  | _, _ => []

/-- What the column with the given key averages: a value, and what it is divided by. -/
def averages (key : String) (current previous : Status) : List (Int × Int) :=
  if key = "glems" then acknowledgementAverages current previous
  else if key = "lrwt" then lockWaitAverages current previous
  else if key = "r|w|c" then latencyAverages current previous
  else []

/-! ## Failing -/

/-- There is no value, but a fault. -/
def Fails {α : Type} (result : Except ArithmeticFault α) : Prop := ∃ fault, result = .error fault

/-- The quotients that a result is made of are the given ones: it is missing exactly if one of them
is the quotient that 64 bits do not hold, and for that reason. -/
def DividesOnly {α : Type} (result : Except ArithmeticFault α) (quotients : List (Int × Int)) :
    Prop :=
  ∀ fault, result = .error fault ↔ fault = .divisionOverflow ∧ overflow ∈ quotients

section

variable {α β : Type} {result : Except ArithmeticFault α} {quotients others : List (Int × Int)}

theorem dividesOnly_ok (value : α) : DividesOnly (.ok value) [] :=
  fun _ => iff_of_false nofun fun h => List.not_mem_nil h.2

theorem dividesOnly_average (value outOf : Int) :
    DividesOnly (average value outOf) [(value, outOf)] := by
  intro fault
  rw [average_eq_error_iff, List.mem_singleton, overflow, Prod.mk.injEq, eq_comm (a := minInt64),
    eq_comm (a := (-1 : Int))]

theorem DividesOnly.fails_iff (h : DividesOnly result quotients) :
    Fails result ↔ overflow ∈ quotients := by
  constructor
  · rintro ⟨fault, hfault⟩
    exact ((h fault).mp hfault).2
  · intro hoverflow
    exact ⟨.divisionOverflow, (h _).mpr ⟨rfl, hoverflow⟩⟩

/-- Working on with a value divides nothing. -/
theorem DividesOnly.map (h : DividesOnly result quotients) (f : α → β) :
    DividesOnly (result.map f) quotients := by
  intro fault
  rw [← h fault]
  cases result with
  | ok value => exact iff_of_false nofun nofun
  | error other => rw [Except.map, Except.error.injEq, Except.error.injEq]

/-- Of two results that follow each other the first one that is missing gives the fault. -/
theorem DividesOnly.bind {next : α → Except ArithmeticFault β}
    (h : DividesOnly result quotients) (hnext : ∀ value, DividesOnly (next value) others) :
    DividesOnly (result.bind next) (quotients ++ others) := by
  intro fault
  cases result with
  | ok value =>
    have hmem : overflow ∉ quotients := by
      intro hoverflow
      cases (h .divisionOverflow).mpr ⟨rfl, hoverflow⟩
    rw [List.mem_append, or_iff_right hmem]
    exact hnext value fault
  | error other =>
    obtain ⟨rfl, hmem⟩ := (h other).mp rfl
    rw [Except.bind, Except.error.injEq, List.mem_append, and_iff_left (.inl hmem), eq_comm]

end

theorem dividesOnly_acknowledgementMillis (current previous : Sample) :
    DividesOnly (acknowledgementMillis current previous)
      (acknowledgementAverages current.status previous.status) := by
  unfold acknowledgementMillis acknowledgementAverages
  cases current.status.metrics with
  | none => exact dividesOnly_ok ""
  | some now =>
    cases previous.status.metrics with
    | none => exact dividesOnly_ok ""
    | some before => exact (dividesOnly_average _ _).map decimal

theorem dividesOnly_lockWaitTimes (current previous : Status) :
    DividesOnly (lockWaitTimes current previous) (lockWaitAverages current previous) := by
  unfold lockWaitTimes lockWaitAverages
  cases collectionLocks? current previous with
  | none => exact dividesOnly_ok ""
  | some locks =>
    exact (dividesOnly_average _ _).bind fun reads => (dividesOnly_average _ _).map _

theorem dividesOnly_averageMillis (current previous : Latency) :
    DividesOnly (averageMillis current previous)
      [(current.latency - previous.latency, current.operations - previous.operations)] :=
  (dividesOnly_average _ _).map _

theorem dividesOnly_latencyMillis (current previous : Sample) :
    DividesOnly (latencyMillis current previous)
      (latencyAverages current.status previous.status) := by
  unfold latencyMillis latencyAverages
  cases current.status.latencies with
  | none => exact dividesOnly_ok ""
  | some now =>
    cases previous.status.latencies with
    | none => exact dividesOnly_ok ""
    | some before =>
      exact (dividesOnly_averageMillis _ _).bind fun reads =>
        (dividesOnly_averageMillis _ _).bind fun writes => (dividesOnly_averageMillis _ _).map _

/-! ## Columns -/

/-- The keys of the columns with averages. -/
def averagingKeys : List String := ["glems", "lrwt", "r|w|c"]

theorem averages_eq_nil {key : String} (h : key ∉ averagingKeys) (current previous : Status) :
    averages key current previous = [] := by
  simp only [averagingKeys, List.mem_cons, List.not_mem_nil, or_false, not_or] at h
  obtain ⟨hacknowledgements, hlockWaits, hlatencies⟩ := h
  rw [averages, if_neg hacknowledgements, if_neg hlockWaits, if_neg hlatencies]

/-- What the columns of the registry read: one of the cells with averages, or one that always has
a value. -/
inductive Reads : String → (CellSettings → Sample → Sample → Except ArithmeticFault String) → Prop
  | acknowledgements : Reads "glems" fun _ => acknowledgementMillis
  | lockWaits : Reads "lrwt" fun _ current previous => lockWaitTimes current.status previous.status
  | latencies : Reads "r|w|c" fun _ => latencyMillis
  | total {key : String} (h : key ∉ averagingKeys)
      (cell : CellSettings → Sample → Sample → String) : Reads key (total cell)

theorem reads_of_mem : ∀ column ∈ columns, Reads column.key column.read := by
  simp only [columns, List.forall_mem_cons]
  and_intros
  all_goals first
    | exact .total (by decide) _
    | exact .acknowledgements
    | exact .lockWaits
    | exact .latencies
    | exact nofun

/-- A column has no cell exactly if one of its averages is the quotient that 64 bits do not
hold. -/
theorem Reads.dividesOnly {key : String}
    {read : CellSettings → Sample → Sample → Except ArithmeticFault String} (h : Reads key read)
    (settings : CellSettings) (current previous : Sample) :
    DividesOnly (read settings current previous)
      (averages key current.status previous.status) := by
  cases h with
  | acknowledgements => exact dividesOnly_acknowledgementMillis current previous
  | lockWaits => exact dividesOnly_lockWaitTimes current.status previous.status
  | latencies => exact dividesOnly_latencyMillis current previous
  | total hkey cell =>
    rw [averages_eq_nil hkey]
    exact dividesOnly_ok _

/-- No two columns have the same key. -/
theorem nodup_columnKeys : (columns.map Column.key).Nodup := by
  decide

theorem averagingKeys_subset : averagingKeys ⊆ columns.map Column.key := by
  decide

/-- A column is selected by its key. -/
theorem ofKey_key_of_mem {column : Column} (h : column ∈ columns) :
    Selection.ofKey column.key = .registered column := by
  rw [Selection.ofKey]
  cases hfind : columns.find? fun other => other.key = column.key with
  | none =>
    have hnone := List.find?_eq_none.mp hfind column h
    exact absurd (decide_eq_true rfl) hnone
  | some other =>
    have hkey : other.key = column.key := by simpa using List.find?_some hfind
    rw [List.inj_on_of_nodup_map nodup_columnKeys (List.mem_of_find?_eq_some hfind) h hkey]

/-- A key selects a column or a path with that key. -/
theorem key_ofKey (key : String) : (Selection.ofKey key).key = key := by
  rw [Selection.ofKey]
  cases hfind : columns.find? fun column => column.key = key with
  | none => rfl
  | some column =>
    have hkey : column.key = key := by simpa using List.find?_some hfind
    exact hkey

/-- Whatever is selected is what its key stands for. -/
theorem ofKey_key {status : Status} {options : RenderOptions} {selection : Selection}
    (h : selection ∈ selections status options) : Selection.ofKey selection.key = selection := by
  unfold selections at h
  cases hfields : options.fields with
  | some keys =>
    rw [hfields] at h
    obtain ⟨key, -, rfl⟩ := List.mem_map.mp h
    rw [key_ofKey]
  | none =>
    rw [hfields] at h
    obtain ⟨column, hcolumn, rfl⟩ := List.mem_map.mp h
    exact ofKey_key_of_mem (List.mem_filter.mp hcolumn).1

theorem dividesOnly_selection {status : Status} {options : RenderOptions} {selection : Selection}
    (h : selection ∈ selections status options) (settings : CellSettings)
    (current previous : Sample) : DividesOnly (selection.read settings current previous)
      (averages selection.key current.status previous.status) := by
  have hselection := ofKey_key h
  unfold Selection.ofKey at hselection
  cases hfind : columns.find? fun column => column.key = selection.key with
  | some column =>
    have hreads := reads_of_mem column (List.mem_of_find?_eq_some hfind)
    rw [hfind] at hselection
    rw [← hselection]
    exact hreads.dividesOnly settings current previous
  | none =>
    -- The selection is a path, and no path has the key of a column.
    have hnone : selection.key ∉ columns.map Column.key := by
      rintro hmem
      obtain ⟨column, hcolumn, hkey⟩ := List.mem_map.mp hmem
      exact List.find?_eq_none.mp hfind column hcolumn (decide_eq_true hkey)
    have hkey : selection.key ∉ averagingKeys := fun hmem => hnone (averagingKeys_subset hmem)
    rw [hfind] at hselection
    rw [averages_eq_nil hkey, ← hselection]
    exact dividesOnly_ok _

/-! ## Lines -/

/-- The cells of a line divide what those that are selected divide. -/
theorem dividesOnly_readAll {settings : CellSettings} {current previous : Sample}
    {quotients : Selection → List (Int × Int)} {selected : List Selection}
    (h : ∀ selection ∈ selected,
      DividesOnly (selection.read settings current previous) (quotients selection)) :
    DividesOnly (readAll settings current previous selected) (selected.flatMap quotients) := by
  induction selected with
  | nil => exact dividesOnly_ok []
  | cons selection rest ih =>
    rw [List.forall_mem_cons] at h
    rw [readAll, List.flatMap_cons]
    exact h.1.bind fun cell => (ih h.2).map _

/-- There is one cell for every selected column, in order. -/
theorem forall₂_of_readAll {settings : CellSettings} {current previous : Sample}
    {selected : List Selection} {cells : List (String × String)}
    (h : readAll settings current previous selected = .ok cells) :
    List.Forall₂ (fun selection cell => selection.key = cell.1 ∧
      selection.read settings current previous = .ok cell.2) selected cells := by
  induction selected generalizing cells with
  | nil =>
    obtain rfl := Except.ok.inj h
    exact .nil
  | cons selection rest ih =>
    rw [readAll] at h
    cases hread : selection.read settings current previous with
    | error fault =>
      rw [hread] at h
      cases h
    | ok text =>
      rw [hread] at h
      cases hrest : readAll settings current previous rest with
      | error fault =>
        rw [hrest] at h
        cases h
      | ok others =>
        rw [hrest] at h
        obtain rfl := Except.ok.inj h
        exact .cons ⟨rfl, hread⟩ (ih hrest)

/-- The cells are those of the columns that are selected. -/
theorem mem_readAll_iff {settings : CellSettings} {current previous : Sample}
    {selected : List Selection} {cells : List (String × String)}
    (h : readAll settings current previous selected = .ok cells) {cell : String × String} :
    cell ∈ cells ↔ ∃ selection ∈ selected, selection.key = cell.1 ∧
      selection.read settings current previous = .ok cell.2 := by
  have hcells := forall₂_of_readAll h
  clear h
  induction hcells with
  | nil => simp
  | @cons selection first rest others hfirst _ ih =>
    have hcell : cell = first ↔ selection.key = cell.1 ∧
        selection.read settings current previous = .ok cell.2 := by
      rw [hfirst.1, hfirst.2, Except.ok.injEq, Prod.ext_iff, eq_comm, eq_comm (a := cell.2)]
    rw [List.mem_cons, List.exists_mem_cons_iff, hcell]
    exact or_congr_right ih

/-- The keys of the columns that a line shows. -/
def shownKeys (line : StatLine) (options : RenderOptions) : List String :=
  (selections line.current.status options).map Selection.key

/-- A column that is shown has an average that is the quotient that 64 bits do not hold. -/
def Overflows (line : StatLine) (options : RenderOptions) : Prop :=
  ∃ key ∈ shownKeys line options, key ∈ averagingKeys ∧
    overflow ∈ averages key line.current.status line.previous.status

instance (line : StatLine) (options : RenderOptions) : Decidable (Overflows line options) :=
  inferInstanceAs (Decidable (∃ key ∈ shownKeys line options, _ ∧ _))

/-- The averages of all columns that a line shows. -/
def shownAverages (line : StatLine) (options : RenderOptions) : List (Int × Int) :=
  (selections line.current.status options).flatMap fun selection =>
    averages selection.key line.current.status line.previous.status

/-- A line divides nothing but the averages that it shows. -/
theorem dividesOnly_cells (line : StatLine) (options : RenderOptions) :
    DividesOnly (line.cells options) (shownAverages line options) :=
  dividesOnly_readAll fun _ hselection => dividesOnly_selection hselection _ _ _

theorem overflow_mem_shownAverages_iff {line : StatLine} {options : RenderOptions} :
    overflow ∈ shownAverages line options ↔ Overflows line options := by
  rw [shownAverages, List.mem_flatMap, Overflows, shownKeys]
  constructor
  · rintro ⟨selection, hselection, hoverflow⟩
    refine ⟨selection.key, List.mem_map_of_mem hselection, ?_, hoverflow⟩
    refine Decidable.byContradiction fun hkey => ?_
    rw [averages_eq_nil hkey] at hoverflow
    exact List.not_mem_nil hoverflow
  · rintro ⟨_, hkey, -, hoverflow⟩
    obtain ⟨selection, hselection, rfl⟩ := List.mem_map.mp hkey
    exact ⟨selection, hselection, hoverflow⟩

/-- A line has no cells exactly if one of the averages that it shows is the quotient that 64 bits
do not hold. -/
theorem fails_cells (line : StatLine) (options : RenderOptions) :
    Fails (line.cells options) ↔ Overflows line options :=
  (dividesOnly_cells line options).fails_iff.trans overflow_mem_shownAverages_iff

/-- A sample of a server that reports only its waits for acknowledgement. -/
def acknowledgingSample (waitTimes : WaitTimes) : Sample where
  time := ⟨0, 0⟩
  cores := 0
  status := { metrics := some { getLastError := { waitTimes } } }
  reply := .null

/-- A server that has forgotten its one wait and reports the smallest time. -/
def overflowingLine : StatLine where
  current := acknowledgingSample { count := 0, totalMillis := minInt64 }
  previous := acknowledgingSample { count := 1, totalMillis := 0 }

end LoadWatch.ServerStatus
