/-
  Proofs/GridLayout.lean --- where the cells of a grid stand.

  WHAT THIS FILE IS FOR.  A grid is written step by step, and then laid out as a
  whole.  Here both are described by what comes out.  The cells and the ends of
  rows that were written, in the order in which they were written (`marks`),
  determine the rows of the grid (`eq_write_iff`), however the cells were
  grouped into steps.

  A column is as wide as the widest of its cells in any row (`columnWidth`), and
  the columns before it and the padding between them say where it ends
  (`columnEnd`).  The two passes of the layout agree on these places: every cell
  ends where its column ends, a padding or more behind the column before, and
  all other positions are spaces (`Placed`).  This is read off the gaps of the
  line one by one (`ShowsRow.placed`), by induction over the cells.

  Main result: `laidOut`.
-/
import Mathlib.Data.List.Basic
import Mathlib.Tactic.Ring
import LoadWatch.Proofs.GridRows

set_option autoImplicit false

namespace LoadWatch.Grid

open Text (OneLine isBlank trimEnd)

variable {padding : Nat}

/-! ## Writing a grid step by step -/

/-- What can be done to a grid before it is laid out. -/
inductive Step where
  | cell (text : String)
  | cells (texts : List String)
  | endRow

namespace Step

/-- The grid after a step. -/
def apply (grid : Grid) : Step → Grid
  | .cell text => grid.writeCell text
  | .cells texts => grid.writeCells texts
  | .endRow => grid.endRow

/-- The cells that a step writes. -/
def written : Step → List String
  | .cell text => [text]
  | .cells texts => texts
  | .endRow => []

/-- The marks that a step leaves: its cells, or the end of a row. -/
def marks : Step → List (Option String)
  | .cell text => [some text]
  | .cells texts => texts.map some
  | .endRow => [none]

theorem some_mem_marks_iff (step : Step) {text : String} :
    some text ∈ step.marks ↔ text ∈ step.written := by
  cases step <;> simp [marks, written]

end Step

/-- The grid that a sequence of steps makes. -/
def write (steps : List Step) : Grid := steps.foldl Step.apply empty

/-- The cells of a grid and the ends of its rows, one after the other. -/
def marks (grid : Grid) : List (Option String) :=
  grid.rows.flatMap (fun row => row.map some ++ [none]) ++ grid.begun.map some

/-- A step adds its marks to those of the grid. -/
theorem marks_apply (grid : Grid) (step : Step) :
    (step.apply grid).marks = grid.marks ++ step.marks := by
  cases step <;> simp [Step.apply, Step.marks, marks, writeCell, writeCells, endRow]

/-- A sequence of steps adds all its marks, in order. -/
theorem marks_foldl (steps : List Step) (grid : Grid) :
    (steps.foldl Step.apply grid).marks = grid.marks ++ steps.flatMap Step.marks := by
  induction steps generalizing grid with
  | nil => rw [List.foldl_nil, List.flatMap_nil, List.append_nil]
  | cons step steps ih =>
    rw [List.foldl_cons, ih, marks_apply, List.flatMap_cons, List.append_assoc]

theorem marks_cons (row : List String) (rows : List (List String)) (begun : List String) :
    marks { rows := row :: rows, begun } = row.map some ++ none :: marks { rows, begun } := by
  simp [marks]

theorem some_mem_marks {grid : Grid} {row : List String} {cell : String}
    (hrow : row ∈ grid.allRows) (hcell : cell ∈ row) : some cell ∈ grid.marks := by
  rw [allRows, List.mem_append] at hrow
  rcases hrow with hended | hbegun
  · exact List.mem_append_left _ (List.mem_flatMap.mpr
      ⟨row, hended, List.mem_append_left _ (List.mem_map_of_mem hcell)⟩)
  · obtain rfl : row = grid.begun := by
      split at hbegun
      · cases hbegun
      · exact List.mem_singleton.mp hbegun
    exact List.mem_append_right _ (List.mem_map_of_mem hcell)

/-- The cells before the first end of a row can be told from what comes after it. -/
theorem append_none_inj {row other : List String} {rest more : List (Option String)}
    (h : row.map some ++ none :: rest = other.map some ++ none :: more) :
    row = other ∧ rest = more := by
  induction row generalizing other with
  | nil =>
    cases other with
    | nil => exact ⟨rfl, (List.cons.inj h).2⟩
    | cons text other => exact absurd (List.cons.inj h).1 (Option.some_ne_none text).symm
  | cons cell row ih =>
    cases other with
    | nil => exact absurd (List.cons.inj h).1 (Option.some_ne_none cell)
    | cons text other =>
      obtain ⟨hcell, hrow⟩ := List.cons.inj h
      obtain ⟨rfl, hrest⟩ := ih hrow
      exact ⟨by rw [Option.some.inj hcell], hrest⟩

/-- A row that is not ended has not the marks of an ended one. -/
theorem cells_ne_append_none (begun row : List String) (rest : List (Option String)) :
    begun.map some ≠ row.map some ++ none :: rest := by
  intro h
  have hmem : none ∈ begun.map some := h ▸ List.mem_append_right _ List.mem_cons_self
  simp at hmem

/-- A grid is determined by its marks. -/
theorem marks_injective {left right : Grid} (h : left.marks = right.marks) : left = right := by
  obtain ⟨rows, begun⟩ := left
  obtain ⟨others, other⟩ := right
  induction rows generalizing others with
  | nil =>
    cases others with
    | nil =>
      obtain rfl : begun = other := List.map_injective_iff.mpr (fun _ _ => Option.some.inj) h
      rfl
    | cons row others => exact absurd (h.trans (marks_cons ..)) (cells_ne_append_none _ _ _)
  | cons row rows ih =>
    cases others with
    | nil => exact absurd (h.symm.trans (marks_cons ..)) (cells_ne_append_none _ _ _)
    | cons first others =>
      rw [marks_cons, marks_cons] at h
      obtain ⟨rfl, hrest⟩ := append_none_inj h
      obtain ⟨rfl, rfl⟩ := Grid.mk.inj (ih others hrest)
      rfl

/-- The grid of a sequence of steps is the one with the marks of the steps. -/
theorem eq_write_iff (grid : Grid) (steps : List Step) :
    grid = write steps ↔ grid.marks = steps.flatMap Step.marks := by
  have hwrite : (write steps).marks = steps.flatMap Step.marks := marks_foldl steps empty
  exact ⟨fun h => h ▸ hwrite, fun h => marks_injective (h.trans hwrite.symm)⟩

/-- Cells that are written as a list may be written one by one. -/
theorem write_cells (before after : List Step) (cells : List String) :
    write (before ++ .cells cells :: after) = write (before ++ cells.map .cell ++ after) := by
  rw [eq_write_iff, (eq_write_iff _ _).mp rfl]
  have hcells : (cells.map Step.cell).flatMap Step.marks = cells.map some := by
    rw [List.flatMap_map, List.map_eq_flatMap]
    rfl
  simp only [List.flatMap_append, List.flatMap_cons, hcells, Step.marks, List.append_assoc]

/-! ## Columns -/

/-- The width of the widest cell of a column, in any of the rows. -/
def columnWidth (rows : List (List String)) (column : Nat) : Nat :=
  ((rows.filterMap fun row => row[column]?).map String.length).foldr max 0

/-- Where a column ends: after it and the columns before it, with the padding between them. -/
def columnEnd (padding : Nat) (rows : List (List String)) (column : Nat) : Nat :=
  ((List.range (column + 1)).map (columnWidth rows)).sum + column * padding

theorem getD_mergeWidths (left right : List Nat) (column : Nat) :
    (mergeWidths left right)[column]?.getD 0 =
      max (left[column]?.getD 0) (right[column]?.getD 0) := by
  fun_induction mergeWidths left right generalizing column with
  | case1 right => simp
  | case2 left => simp
  | case3 l left r right ih =>
    cases column with
    | zero => rfl
    | succ column => exact ih column

/-- A row without a cell in a column does not make it wider. -/
theorem columnWidth_cons (row : List String) (rows : List (List String)) (column : Nat) :
    columnWidth (row :: rows) column =
      max ((row[column]?.map String.length).getD 0) (columnWidth rows column) := by
  unfold columnWidth
  cases h : row[column]? <;> simp [h]

/-- The rows are measured one after the other, and the width of every column is that of its widest
cell. -/
theorem getD_columnWidths (rows : List (List String)) (column : Nat) :
    (columnWidths rows)[column]?.getD 0 = columnWidth rows column := by
  let measure := fun (widths : List Nat) (row : List String) =>
    mergeWidths widths (row.map String.length)
  -- The widest cell is among the rows measured so far, or among those still to be measured.
  suffices hfold : ∀ widths, (rows.foldl measure widths)[column]?.getD 0 =
      max (widths[column]?.getD 0) (columnWidth rows column) by
    rw [columnWidths, hfold []]
    exact Nat.zero_max _
  induction rows with
  | nil => exact fun widths => (Nat.max_zero _).symm
  | cons row rows ih =>
    intro widths
    rw [List.foldl_cons, ih, getD_mergeWidths, Nat.max_assoc, columnWidth_cons, List.getElem?_map]

theorem sum_take (widths : List Nat) (count : Nat) :
    (widths.take count).sum = ((List.range count).map fun i => widths[i]?.getD 0).sum := by
  induction count with
  | zero => rfl
  | succ count ih =>
    rw [List.take_add_one, List.sum_append, ih, List.range_succ, List.map_append, List.sum_append]
    cases h : widths[count]? <;> simp [h]

/-- Where columns of given widths end, with the padding between them. -/
def endsOf (padding : Nat) (widths : List Nat) (column : Nat) : Nat :=
  (widths.take (column + 1)).sum + column * padding

theorem endsOf_zero (padding width : Nat) (widths : List Nat) :
    endsOf padding (width :: widths) 0 = width := by
  simp [endsOf]

/-- The columns after the first one are where they are as seen from its end, a padding further. -/
theorem endsOf_succ (padding width : Nat) (widths : List Nat) (column : Nat) :
    endsOf padding (width :: widths) (column + 1) =
      width + (endsOf padding widths column + padding) := by
  simp only [endsOf, List.take_succ_cons, List.sum_cons]
  ring

/-- Where the columns of measured rows end. -/
theorem columnEnd_eq (padding : Nat) (rows : List (List String)) :
    columnEnd padding rows = endsOf padding (columnWidths rows) := by
  funext column
  rw [endsOf, sum_take, columnEnd]
  simp only [getD_columnWidths]

/-! ## Cells in their places -/

/-- A position of a line belongs to a cell of the row, in columns that end at the given places. -/
def Taken (ends : Nat → Nat) (row : List String) (i : Nat) : Prop :=
  ∃ column cell, row[column]? = some cell ∧ i < ends column ∧ ends column ≤ i + cell.length

/-- A line has every cell of a row right before the end of its column, and spaces elsewhere. -/
structure Placed (padding : Nat) (ends : Nat → Nat) (row : List String) (chars : List Char) :
    Prop where
  /-- The whole of a cell stands before the end of its column. -/
  cell : ∀ column cell, row[column]? = some cell → ∃ before after,
    chars = before ++ cell.toList ++ after ∧ before.length + cell.length = ends column
  /-- A cell is a padding or more behind the end of the column before. -/
  apart : ∀ column cell, row[column + 1]? = some cell →
    ends column + padding + cell.length ≤ ends (column + 1)
  /-- All other positions are spaces. -/
  spaces : ∀ i c, chars[i]? = some c → ¬ Taken ends row i → c = ' '
  /-- The line ends with the last of the columns that the row has. -/
  length : chars.length = if row = [] then 0 else ends (row.length - 1)

theorem placed_nil (padding : Nat) (ends : Nat → Nat) : Placed padding ends [] [] where
  cell := nofun
  apart := nofun
  spaces := nofun
  length := rfl

/-- A cell in its place before the others, which are where they are as seen from its right end. -/
theorem Placed.cons {ends others : Nat → Nat} {gap : Nat} {cell : String} {cells : List String}
    {rest : List Char} (more : Placed padding others cells rest)
    (aligned : gap + cell.length = ends 0)
    (hends : ∀ column, ends (column + 1) = ends 0 + others column)
    (room : ∀ next, cells[0]? = some next → padding + next.length ≤ others 0) :
    Placed padding ends (cell :: cells) (List.replicate gap ' ' ++ cell.toList ++ rest) where
  cell column text hcell := by
    cases column with
    | zero =>
      obtain rfl : cell = text := Option.some.inj hcell
      exact ⟨_, rest, rfl, by rw [List.length_replicate, aligned]⟩
    | succ column =>
      obtain ⟨before, after, rfl, hbefore⟩ := more.cell column text hcell
      refine ⟨List.replicate gap ' ' ++ cell.toList ++ before, after, ?_, ?_⟩
      · simp only [List.append_assoc]
      · simp only [List.length_append, List.length_replicate, String.length_toList]
        rw [hends, ← hbefore]
        omega
  apart column text hcell := by
    cases column with
    | zero =>
      have hroom : padding + text.length ≤ others 0 := room text hcell
      rw [hends]
      omega
    | succ column =>
      have hapart : others column + padding + text.length ≤ others (column + 1) :=
        more.apart column text hcell
      rw [hends, hends]
      omega
  spaces i c hc free := by
    have hfront : (List.replicate gap ' ' ++ cell.toList).length = ends 0 := by
      rw [List.length_append, List.length_replicate, String.length_toList, aligned]
    rcases Nat.lt_or_ge i (ends 0) with hi | hi
    · rw [List.getElem?_append_left (hfront ▸ hi)] at hc
      -- A position in front of the first cell, or in it.
      rcases Nat.lt_or_ge i gap with hgap | hgap
      · rw [List.getElem?_append_left (by rwa [List.length_replicate]),
          List.getElem?_replicate_of_lt hgap] at hc
        exact (Option.some.inj hc).symm
      · exact absurd ⟨0, cell, rfl, hi, by omega⟩ free
    · rw [List.getElem?_append_right (hfront ▸ hi), hfront] at hc
      refine more.spaces _ c hc fun ⟨column, text, htext, hbefore, hafter⟩ => free ?_
      refine ⟨column + 1, text, htext, ?_, ?_⟩ <;> rw [hends] <;> omega
  length := by
    have hmore : rest.length = if cells = [] then 0 else others (cells.length - 1) := more.length
    simp only [List.length_append, List.length_replicate, String.length_toList, aligned, hmore]
    cases cells with
    | nil => rfl
    | cons next cells => exact (hends cells.length).symm

theorem ShowsMore.room {widths : List Nat} {cells : List String} {line : List Char}
    (h : ShowsMore padding widths cells line) (next : String) (hnext : cells[0]? = some next) :
    padding + next.length ≤ endsOf padding widths 0 + padding := by
  cases h with
  | none widths => cases hnext
  | cell gap apart aligned _ =>
    obtain rfl := Option.some.inj hnext
    rw [endsOf_zero]
    omega

/-- The cells after the first one are in their places. -/
theorem ShowsMore.placed {widths : List Nat} {cells : List String} {line : List Char}
    (h : ShowsMore padding widths cells line) :
    Placed padding (fun column => endsOf padding widths column + padding) cells line := by
  induction h with
  | none widths => exact placed_nil padding _
  | cell gap _ aligned more ih =>
    refine ih.cons ?_ (fun column => ?_) more.room
    · rw [aligned, endsOf_zero, Nat.add_comm]
    · rw [endsOf_succ, endsOf_zero, Nat.add_right_comm]

/-- The cells of a line are in their places. -/
theorem ShowsRow.placed {widths : List Nat} {row : List String} {line : List Char}
    (h : ShowsRow padding widths row line) : Placed padding (endsOf padding widths) row line := by
  cases h with
  | row gap aligned more =>
    refine more.placed.cons ?_ (fun column => ?_) more.room
    · rw [aligned, endsOf_zero]
    · rw [endsOf_succ, endsOf_zero]

/-- The cells of a row are in their places, if the blanks are added that were cut off. -/
theorem ShowsCut.placed {widths : List Nat} {row : List String} {line : List Char}
    (h : ShowsCut padding widths row line) : ∃ blanks, (∀ c ∈ blanks, isBlank c = true) ∧
      Placed padding (endsOf padding widths) row (line ++ blanks) := by
  cases h with
  | empty => exact ⟨[], nofun, placed_nil padding _⟩
  | row shows blank => exact ⟨_, blank, shows.placed⟩

/-! ## The lines of a grid -/

/-- A line shows a row of the given rows, each cell of it in its place, up to blanks that are cut
off at the right end. -/
structure ShowsPlaced (padding : Nat) (rows : List (List String)) (row : List String)
    (line : List Char) : Prop where
  placed : ∃ blanks, (∀ c ∈ blanks, isBlank c = true) ∧
    Placed padding (columnEnd padding rows) row (line ++ blanks)
  /-- There are no blanks left at the right end. -/
  cut : ∀ c, line.getLast? = some c → isBlank c = false

/-- An open row with cells is laid out as if it was ended. -/
theorem render_allRows (grid : Grid) :
    render { rows := grid.allRows } padding = grid.render padding := by
  have hrows : allRows { rows := grid.allRows } = grid.allRows := List.append_nil _
  rw [render, render, lines, lines, hrows]

theorem showsPlaced_trimEnd {rows : List (List String)} {row : List String} (h : row ∈ rows) :
    ShowsPlaced padding rows row (trimEnd (rowText padding (columnWidths rows) row)) where
  placed := by
    rw [columnEnd_eq]
    exact (showsCut_trimEnd (fits_columnWidths h)).placed
  cut _ := Text.getLast?_trimEnd_not_blank

/-- A cell of a grid was written in one of the steps. -/
theorem exists_written {steps : List Step} {row : List String} {cell : String}
    (hrow : row ∈ (write steps).allRows) (hcell : cell ∈ row) :
    ∃ step ∈ steps, cell ∈ step.written := by
  have hmark : some cell ∈ (write steps).marks := some_mem_marks hrow hcell
  rw [(eq_write_iff _ _).mp rfl] at hmark
  obtain ⟨step, hstep, hmark⟩ := List.mem_flatMap.mp hmark
  exact ⟨step, hstep, step.some_mem_marks_iff.mp hmark⟩

/-- How the text of a grid follows from the steps that wrote it. -/
structure LaidOut (padding : Nat) (steps : List Step) : Prop where
  /-- The grid holds what was written, in order, cut into rows where a row was ended. -/
  content : ∀ grid : Grid, grid = write steps ↔ grid.marks = steps.flatMap Step.marks
  /-- Writing a list of cells is writing them one by one. -/
  oneByOne : ∀ before cells after, steps = before ++ .cells cells :: after →
    write steps = write (before ++ cells.map .cell ++ after)
  /-- There is an ended line for every ended row and one for an open row with cells, in order, and
  each of them shows its row in its place. -/
  lines : (∀ step ∈ steps, ∀ cell ∈ step.written, OneLine cell) → ∃ lines : List (List Char),
    let grid := write steps
    grid.render padding = String.ofList (lines.map fun line => line ++ ['\n']).flatten ∧
      Text.lines (grid.render padding) = lines ∧
      lines.length = grid.rows.length + (if grid.begun = [] then 0 else 1) ∧
      List.Forall₂ (ShowsPlaced padding grid.allRows) grid.allRows lines

/-- Whatever is written to a grid, in whatever steps, all of it is shown in its place. -/
theorem laidOut (padding : Nat) (steps : List Step) : LaidOut padding steps where
  content grid := eq_write_iff grid steps
  oneByOne before cells after h := by rw [h, write_cells]
  lines oneLine := by
    have hcells : ∀ row ∈ (write steps).allRows, ∀ cell ∈ row, OneLine cell := by
      intro row hrow cell hcell
      obtain ⟨step, hstep, hwritten⟩ := exists_written hrow hcell
      exact oneLine step hstep cell hwritten
    obtain ⟨hrender, hread⟩ := lines_render rfl (newline_not_mem_lines hcells)
    rw [render_allRows] at hrender hread
    refine ⟨_, hrender, hread, ?_, List.forall₂_map_right_iff.mpr (List.forall₂_same.mpr ?_)⟩
    · rw [List.length_map, length_allRows]
      simp only [List.isEmpty_iff]
    · exact fun row hrow => showsPlaced_trimEnd hrow

/-- Steps that leave rows of different lengths: one without cells, one with an empty cell at its
end, and one that is not ended. -/
def raggedSteps : List Step :=
  [.cells ["ns", "ms"], .endRow, .endRow, .cell "größe", .cells ["7", ""], .endRow,
    .cells ["x", "y\u3000"]]

theorem raggedSteps_laidOut :
    (∀ step ∈ raggedSteps, ∀ cell ∈ step.written, OneLine cell) ∧
      List.Forall₂ (ShowsPlaced 2 (write raggedSteps).allRows)
        [["ns", "ms"], [], ["größe", "7", ""], ["x", "y\u3000"]]
        ["   ns  ms".toList, [], "größe   7".toList, "    x  y".toList] := by
  have oneLine : ∀ step ∈ raggedSteps, ∀ cell ∈ step.written, OneLine cell := by decide
  obtain ⟨lines, -, hread, -, shown⟩ := (laidOut 2 raggedSteps).lines oneLine
  have hlines : lines = ["   ns  ms".toList, [], "größe   7".toList, "    x  y".toList] := by
    rw [← hread]
    decide +kernel
  exact ⟨oneLine, hlines ▸ shown⟩

end LoadWatch.Grid
