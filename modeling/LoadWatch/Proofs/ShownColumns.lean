/-
  Proofs/ShownColumns.lean --- which columns a stat line shows, and where.

  WHAT THIS FILE IS FOR.  The columns of a stat line are those that are asked
  for, or else those of the registry that suit the server.  Here it is said what
  that comes to for every line and all options (`ShowsColumns`).  Keys that are
  asked for are shown as they are, and each stands for a column of the registry
  or for a path (`StandsFor`).  Without them the shown columns are a selection of
  the registry that only the current sample and the options decide; columns for
  one storage engine are never shown with those for another (`OnlyFor`), and
  asking for all columns takes none away.

  The cells of a line, and the two rows of its grid, have the shown keys, in
  order.  A row may lose blanks at its right end, and nothing else.

  Main result: `columns_shown`.
-/
import LoadWatch.Proofs.FailingCells
import LoadWatch.Proofs.GridRows

set_option autoImplicit false

namespace LoadWatch.ServerStatus

open Grid (ShowsCut)
open Text (OneLine)

/-! ## Columns that are asked for -/

/-- What a key stands for: the column of the registry that has it, and if there is none the field of
the reply with this path. -/
inductive StandsFor : String → Selection → Prop
  | registered {column : Column} (listed : column ∈ columns) :
      StandsFor column.key (.registered column)
  | field {path : String} (unlisted : path ∉ columns.map Column.key) :
      StandsFor path (.field path)

theorem standsFor_ofKey (key : String) : StandsFor key (.ofKey key) := by
  rw [Selection.ofKey]
  cases hfind : columns.find? fun column => column.key = key with
  | some column =>
    have hkey : column.key = key := by simpa using List.find?_some hfind
    exact hkey ▸ .registered (List.mem_of_find?_eq_some hfind)
  | none =>
    refine .field fun hmem => ?_
    obtain ⟨column, hcolumn, hkey⟩ := List.mem_map.mp hmem
    exact List.find?_eq_none.mp hfind column hcolumn (decide_eq_true hkey)

section Requested

variable {status : Status} {options : RenderOptions} {keys : List String}

theorem selections_of_requested (h : options.fields = some keys) :
    selections status options = keys.map Selection.ofKey := by
  rw [selections, h]

theorem forall₂_standsFor (h : options.fields = some keys) :
    List.Forall₂ StandsFor keys (selections status options) := by
  rw [selections_of_requested h, List.forall₂_map_right_iff, List.forall₂_same]
  exact fun key _ => standsFor_ofKey key

end Requested

/-! ## Columns that suit the server -/

/-- Wherever the column is shown, there is the feature. -/
def OnlyFor (feature : Capabilities → Bool) (column : Column) : Prop :=
  ∀ server, column.active server = true → feature server = true

/-- A column that suits a server suits it also when all columns are asked for. -/
theorem active_of_all : ∀ column ∈ columns, ∀ server : Capabilities,
    column.active { server with all := false } = true →
      column.active { server with all := true } = true := by
  simp [columns, always, onRequest]

/-- No server suits the storage engine. -/
theorem active_storageEngine {column : Column} (h : column ∈ columns)
    (hkey : column.key = "storage_engine") (server : Capabilities) :
    column.active server = false := by
  let engine : Column :=
    ⟨"storage_engine", "Storage engine", onRequest, fromStatus Status.engineName⟩
  have hengine : engine ∈ columns :=
    List.mem_of_find?_eq_some (p := fun column => column.key = "storage_engine") rfl
  rw [List.inj_on_of_nodup_map nodup_columnKeys h hengine hkey]
  rfl

section Suited

variable {line : StatLine} {options : RenderOptions}

theorem shownKeys_of_unrequested (h : options.fields = none) : shownKeys line options =
    (columns.filter fun column => column.active (.of line.current.status options)).map
      Column.key := by
  rw [shownKeys, selections, h, List.map_map]
  rfl

/-- What is shown of the registry suits the server. -/
theorem mem_shownKeys_iff (h : options.fields = none) {column : Column}
    (hcolumn : column ∈ columns) : column.key ∈ shownKeys line options ↔
      column.active (.of line.current.status options) = true := by
  rw [shownKeys_of_unrequested h, List.mem_map]
  constructor
  · rintro ⟨other, hother, hkey⟩
    obtain ⟨hlisted, hactive⟩ := List.mem_filter.mp hother
    rwa [List.inj_on_of_nodup_map nodup_columnKeys hlisted hcolumn hkey] at hactive
  · intro hactive
    exact ⟨column, List.mem_filter.mpr ⟨hcolumn, hactive⟩, rfl⟩

theorem shownKeys_sublist (h : options.fields = none) :
    (shownKeys line options).Sublist (columns.map Column.key) := by
  rw [shownKeys_of_unrequested h]
  exact List.filter_sublist.map _

theorem storageEngine_not_mem_shownKeys (h : options.fields = none) :
    "storage_engine" ∉ shownKeys line options := by
  intro hmem
  obtain ⟨column, hcolumn, hkey⟩ := List.mem_map.mp ((shownKeys_sublist h).subset hmem)
  rw [← hkey, mem_shownKeys_iff h hcolumn, active_storageEngine hcolumn hkey] at hmem
  cases hmem

/-- A server has one storage engine. -/
theorem not_cached_and_mapped (status : Status) (options : RenderOptions)
    (cached : (Capabilities.of status options).wiredTiger = true) :
    (Capabilities.of status options).mmap ≠ true := by
  have hcached : status.engineName = "wiredTiger" := of_decide_eq_true cached
  intro mapped
  have hmapped : status.engineName = "mmapv1" := of_decide_eq_true mapped
  exact absurd (hcached.symm.trans hmapped) (by decide)

/-- Asking for all columns takes none away. -/
theorem shownKeys_sublist_all (h : options.fields = none) :
    (shownKeys line { options with all := false }).Sublist
      (shownKeys line { options with all := true }) := by
  have hselect (all : Bool) : shownKeys line { options with all } =
      (columns.filter fun column =>
        column.active { Capabilities.of line.current.status options with all }).map Column.key :=
    shownKeys_of_unrequested h
  -- What suits without the extended columns is filtered out of what suits with them.
  have hfilter : columns.filter (fun column =>
        column.active { Capabilities.of line.current.status options with all := false }) =
      (columns.filter fun column =>
        column.active { Capabilities.of line.current.status options with all := true }).filter
          fun column =>
            column.active { Capabilities.of line.current.status options with all := false } := by
    rw [List.filter_filter]
    refine List.filter_congr fun column hcolumn => ?_
    have hactive := active_of_all column hcolumn (.of line.current.status options)
    rw [Bool.eq_iff_iff, Bool.and_eq_true, iff_self_and]
    exact hactive
  rw [hselect, hselect, hfilter]
  exact List.filter_sublist.map _

end Suited

/-! ## Cells and rows -/

/-- The cells are those of the selected columns, one for each and in order. -/
def Fills (line : StatLine) (options : RenderOptions) (cells : List (String × String)) : Prop :=
  List.Forall₂ (fun selection cell => selection.key = cell.1 ∧
    selection.read (line.settings options) line.current line.previous = .ok cell.2)
    (selections line.current.status options) cells

variable {line : StatLine} {options : RenderOptions} {cells : List (String × String)}

theorem Fills.keys_eq (h : Fills line options cells) :
    cells.map Prod.fst = shownKeys line options := by
  rw [shownKeys, ← List.forall₂_eq_eq_eq, List.forall₂_map_left_iff, List.forall₂_map_right_iff]
  exact h.flip.imp fun _ _ hcell => hcell.1.symm

/-- The grid of a line shows the keys on its first line and the values on its second, and has no
other lines. -/
theorem exists_keyAndValueRows (h : line.cells options = .ok cells)
    (oneLine : ∀ cell ∈ cells, OneLine cell.1 ∧ OneLine cell.2) :
    ∃ widths text keyRow valueRow, line.grid options = .ok text ∧
      text = String.ofList (keyRow ++ '\n' :: (valueRow ++ ['\n'])) ∧
      Text.lines text = [keyRow, valueRow] ∧
      ShowsCut Report.columnPadding widths (cells.map Prod.fst) keyRow ∧
      ShowsCut Report.columnPadding widths (cells.map Prod.snd) valueRow := by
  have hrows : ∀ row ∈ [cells.map Prod.fst, cells.map Prod.snd], ∀ cell ∈ row, OneLine cell := by
    simp only [List.forall_mem_cons, List.not_mem_nil, false_imp_iff, implies_true, and_true,
      List.forall_mem_map]
    exact ⟨fun cell hcell => (oneLine cell hcell).1, fun cell hcell => (oneLine cell hcell).2⟩
  obtain ⟨widths, lines, htext, hlines, hshows⟩ :=
    Grid.exists_showsCuts Report.columnPadding hrows
  obtain ⟨keyRow, valueRow, rfl⟩ := List.length_eq_two.mp hshows.length_eq.symm
  obtain ⟨hkeys, hrest⟩ := List.forall₂_cons.mp hshows
  obtain ⟨hvalues, -⟩ := List.forall₂_cons.mp hrest
  refine ⟨widths, _, keyRow, valueRow, ?_, ?_, hlines, hkeys, hvalues⟩
  · rw [StatLine.grid, h]
    rfl
  · rw [htext]
    simp

/-! ## The main theorem -/

/-- The columns of a line, and where their keys and values are shown. -/
structure ShowsColumns (line : StatLine) (options : RenderOptions) : Prop where
  /-- There is a cell for every selected column, in order and with its key, unless one of them is an
  average that 64 bits do not hold. -/
  cells : if Overflows line options then Fails (line.cells options)
    else ∃ cells, line.cells options = .ok cells ∧ Fills line options cells ∧
      cells.map Prod.fst = shownKeys line options
  /-- Keys that are asked for are shown as they are, whatever the server is. -/
  requested : ∀ keys, options.fields = some keys → shownKeys line options = keys ∧
    List.Forall₂ StandsFor keys (selections line.current.status options)
  /-- Otherwise different columns of the registry are shown, in its order. -/
  suited : options.fields = none → (shownKeys line options).Sublist (columns.map Column.key) ∧
    (shownKeys line options).Nodup
  /-- Which ones does not depend on the previous sample. -/
  current : ∀ previous cells others, line.cells options = .ok cells →
    StatLine.cells ⟨line.current, previous⟩ options = .ok others →
      cells.map Prod.fst = others.map Prod.fst
  /-- The storage engine is only shown when it is asked for. -/
  onRequest : options.fields = none → "storage_engine" ∉ shownKeys line options
  /-- A column for cache engines is never shown together with one for engines that map files. -/
  apart : options.fields = none → ∀ cached ∈ columns, ∀ mapped ∈ columns,
    cached.key ∈ shownKeys line options → mapped.key ∈ shownKeys line options →
      OnlyFor Capabilities.wiredTiger cached → ¬OnlyFor Capabilities.mmap mapped
  /-- The columns without the extended ones are some of those with them, in the same order. -/
  extended : options.fields = none → (shownKeys line { options with all := false }).Sublist
    (shownKeys line { options with all := true })
  /-- The grid has a line of the keys and a line of the values, cell by cell in the same columns. -/
  grid : ∀ cells, line.cells options = .ok cells →
    (∀ cell ∈ cells, OneLine cell.1 ∧ OneLine cell.2) →
      ∃ widths text keyRow valueRow, line.grid options = .ok text ∧
        text = String.ofList (keyRow ++ '\n' :: (valueRow ++ ['\n'])) ∧
        Text.lines text = [keyRow, valueRow] ∧
        ShowsCut Report.columnPadding widths (cells.map Prod.fst) keyRow ∧
        ShowsCut Report.columnPadding widths (cells.map Prod.snd) valueRow

/-- Every line shows the columns that are asked for, or those that suit its server. -/
theorem columns_shown (line : StatLine) (options : RenderOptions) : ShowsColumns line options := by
  have hfills {cells : List (String × String)} {line : StatLine}
      (h : line.cells options = .ok cells) : Fills line options cells := forall₂_of_readAll h
  constructor
  · split
    · exact (fails_cells line options).mpr ‹_›
    · rename_i hshown
      rw [← fails_cells] at hshown
      cases hcells : line.cells options with
      | error fault => exact absurd ⟨fault, hcells⟩ hshown
      | ok cells => exact ⟨cells, rfl, hfills hcells, (hfills hcells).keys_eq⟩
  · intro keys h
    refine ⟨?_, forall₂_standsFor h⟩
    rw [shownKeys, selections_of_requested h, List.map_map]
    exact (List.map_congr_left fun key _ => key_ofKey key).trans (List.map_id keys)
  · intro h
    exact ⟨shownKeys_sublist h, nodup_columnKeys.sublist (shownKeys_sublist h)⟩
  · intro previous cells others hcells hothers
    exact (hfills hcells).keys_eq.trans (hfills hothers).keys_eq.symm
  · exact storageEngine_not_mem_shownKeys
  · intro h cached hcached mapped hmapped hcachedShown hmappedShown onlyCached onlyMapped
    rw [mem_shownKeys_iff h hcached] at hcachedShown
    rw [mem_shownKeys_iff h hmapped] at hmappedShown
    exact not_cached_and_mapped line.current.status options (onlyCached _ hcachedShown)
      (onlyMapped _ hmappedShown)
  · exact shownKeys_sublist_all
  · intro cells hcells oneLine
    exact exists_keyAndValueRows hcells oneLine

end LoadWatch.ServerStatus
