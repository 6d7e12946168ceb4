/-
  Proofs/GridRows.lean --- what the lines of a grid show.

  WHAT THIS FILE IS FOR.  A grid lays its rows out in two passes: it measures
  all rows, and then writes one line for each.  Here the outcome is described
  without the passes.  A line shows a row in columns of given widths
  (`ShowsRow`) if every cell ends where its column ends, with nothing but spaces
  before it, and at least the padding of them between two cells.

  The measured widths leave room for every cell of every row
  (`fits_columnWidths`), so that all lines show their rows in the same columns.
  Cutting blanks off at the right end of a line takes nothing of the row away, if
  its last cell has no blanks (`showsRow_trimEnd`), and takes a cell without text
  away altogether (`trimEnd_rowText_concat`).

  Whatever the cells are, the lines of a grid show its rows up to blanks that are
  cut off at their right ends (`exists_showsCuts`).

  Main results: `fits_columnWidths`, `showsRow_trimEnd`,
  `trimEnd_rowText_concat`, `lines_render` and `exists_showsCuts`.
-/
import Mathlib.Data.List.Forall2
import LoadWatch.Grid
import LoadWatch.Proofs.Lines

set_option autoImplicit false

namespace LoadWatch.Grid

open Text (Unbroken OneLine trimEnd isBlank)

variable {padding : Nat}

/-! ## Cells in columns -/

/-- A stretch of a line shows the cells after the first of a row. There may be more columns than
cells. -/
inductive ShowsMore (padding : Nat) : List Nat → List String → List Char → Prop
  | none (widths : List Nat) : ShowsMore padding widths [] []
  /-- A cell ends where its column ends, the padding and the width behind the column before. -/
  | cell {width : Nat} {widths : List Nat} {cell : String} {cells : List String}
      {rest : List Char} (gap : Nat) (apart : padding ≤ gap)
      (aligned : gap + cell.length = padding + width) (more : ShowsMore padding widths cells rest) :
      ShowsMore padding (width :: widths) (cell :: cells)
        (List.replicate gap ' ' ++ cell.toList ++ rest)

/-- A line shows the cells of a row in columns of the given widths. The first cell ends as many
characters after the start of the line as its column is wide. -/
inductive ShowsRow (padding : Nat) : List Nat → List String → List Char → Prop
  | row {width : Nat} {widths : List Nat} {cell : String} {cells : List String}
      {rest : List Char} (gap : Nat) (aligned : gap + cell.length = width)
      (more : ShowsMore padding widths cells rest) :
      ShowsRow padding (width :: widths) (cell :: cells)
        (List.replicate gap ' ' ++ cell.toList ++ rest)

/-- The first column leaves room for the first cell. -/
theorem ShowsRow.length_le {widths : List Nat} {cell : String} {cells : List String}
    {line : List Char} (h : ShowsRow padding widths (cell :: cells) line) :
    ∃ width others, widths = width :: others ∧ cell.length ≤ width := by
  obtain ⟨gap, aligned, -⟩ := h
  exact ⟨_, _, rfl, Nat.le.intro ((Nat.add_comm ..).trans aligned)⟩

/-- There is no line end in a gap before a text on one line. -/
theorem newline_not_mem_gap {gap : Nat} {cell : String} (h : OneLine cell) :
    '\n' ∉ List.replicate gap ' ' ++ cell.toList := by
  rw [List.mem_append, List.mem_replicate]
  exact fun hmem => hmem.elim (fun hspace => absurd hspace.2 (by decide)) h

theorem ShowsMore.newline_not_mem {widths : List Nat} {cells : List String} {line : List Char}
    (h : ShowsMore padding widths cells line) (oneLine : ∀ cell ∈ cells, OneLine cell) :
    '\n' ∉ line := by
  induction h with
  | none widths => exact List.not_mem_nil
  | cell gap _ _ _ ih =>
    obtain ⟨hcell, hcells⟩ := List.forall_mem_cons.mp oneLine
    exact fun hmem => (List.mem_append.mp hmem).elim (newline_not_mem_gap hcell) (ih hcells)

/-- A line that shows cells on one line has no line end. -/
theorem ShowsRow.newline_not_mem {widths : List Nat} {cells : List String} {line : List Char}
    (h : ShowsRow padding widths cells line) (oneLine : ∀ cell ∈ cells, OneLine cell) :
    '\n' ∉ line := by
  cases h with
  | row gap _ more =>
    obtain ⟨hcell, hcells⟩ := List.forall_mem_cons.mp oneLine
    exact fun hmem => (List.mem_append.mp hmem).elim (newline_not_mem_gap hcell)
      (more.newline_not_mem hcells)

theorem ShowsMore.endsWith {widths : List Nat} {cells : List String} {last : String}
    {line : List Char} (h : ShowsMore padding widths (cells ++ [last]) line) :
    ∃ front, line = front ++ last.toList := by
  induction cells generalizing widths line with
  | nil =>
    obtain ⟨⟩ | ⟨gap, _, _, ⟨⟩⟩ := h
    exact ⟨_, List.append_nil _⟩
  | cons cell cells ih =>
    obtain ⟨⟩ | ⟨gap, _, _, more⟩ := h
    obtain ⟨front, rfl⟩ := ih more
    exact ⟨_, (List.append_assoc ..).symm⟩

/-- A line that shows a row ends with the last cell. -/
theorem ShowsRow.endsWith {widths : List Nat} {cells : List String} {last : String}
    {line : List Char} (h : ShowsRow padding widths (cells ++ [last]) line) :
    ∃ front, line = front ++ last.toList := by
  cases cells with
  | nil =>
    obtain ⟨gap, _, ⟨⟩⟩ := h
    exact ⟨_, List.append_nil _⟩
  | cons cell cells =>
    obtain ⟨gap, _, more⟩ := h
    obtain ⟨front, rfl⟩ := more.endsWith
    exact ⟨_, (List.append_assoc ..).symm⟩

/-! ## Widths -/

/-- There is a column for every cell, and it leaves room for it. -/
def Fits : List Nat → List String → Prop
  | _, [] => True
  | [], _ :: _ => False
  | width :: widths, cell :: cells => cell.length ≤ width ∧ Fits widths cells

theorem fits_nil (widths : List Nat) : Fits widths [] := by
  cases widths <;> trivial

theorem Fits.of_append {widths : List Nat} {cells others : List String}
    (h : Fits widths (cells ++ others)) : Fits widths cells := by
  induction cells generalizing widths with
  | nil => exact fits_nil widths
  | cons cell cells ih =>
    cases widths with
    | nil => exact h
    | cons width widths => exact ⟨h.1, ih h.2⟩

theorem fits_lengths (row : List String) : Fits (row.map String.length) row := by
  induction row with
  | nil => trivial
  | cons cell row ih => exact ⟨Nat.le_refl _, ih⟩

/-- Merged widths leave room for what either of them leaves room for. -/
theorem fits_mergeWidths {left right : List Nat} {row : List String}
    (h : Fits left row ∨ Fits right row) : Fits (mergeWidths left right) row := by
  fun_induction mergeWidths left right generalizing row with
  | case1 right =>
    cases row with
    | nil => exact fits_nil _
    | cons cell cells => exact h.resolve_left id
  | case2 left =>
    cases row with
    | nil => exact fits_nil _
    | cons cell cells => exact h.resolve_right id
  | case3 l left r right ih =>
    cases row with
    | nil => exact fits_nil _
    | cons cell cells =>
      rcases h with ⟨hcell, hcells⟩ | ⟨hcell, hcells⟩
      · exact ⟨Nat.le_trans hcell (Nat.le_max_left l r), ih (.inl hcells)⟩
      · exact ⟨Nat.le_trans hcell (Nat.le_max_right l r), ih (.inr hcells)⟩

/-- The columns of a grid leave room for all its cells. -/
theorem fits_columnWidths {rows : List (List String)} {row : List String} (h : row ∈ rows) :
    Fits (columnWidths rows) row := by
  -- The widths measured so far leave room for the row, or the row is still to be measured.
  suffices hfold : ∀ widths, Fits widths row ∨ row ∈ rows →
      Fits (rows.foldl (fun widths row => mergeWidths widths (row.map String.length)) widths) row
    from hfold [] (.inr h)
  clear h
  induction rows with
  | nil => exact fun widths h => h.resolve_right List.not_mem_nil
  | cons first rows ih =>
    intro widths h
    rw [List.foldl_cons]
    refine ih _ ?_
    rcases h with hfits | hmem
    · exact .inl (fits_mergeWidths (.inl hfits))
    · rcases List.mem_cons.mp hmem with rfl | hmem
      · exact .inl (fits_mergeWidths (.inr (fits_lengths row)))
      · exact .inr hmem

/-! ## Writing rows -/

theorem showsMore_moreCells {widths : List Nat} {cells : List String} (h : Fits widths cells) :
    ShowsMore padding widths cells (moreCells padding widths cells) := by
  induction cells generalizing widths with
  | nil => cases widths <;> exact .none _
  | cons cell cells ih =>
    cases widths with
    | nil => exact h.elim
    | cons width widths =>
      have hwidth : cell.length ≤ width := h.1
      rw [moreCells, alignRight, String.length_toList, ← List.append_assoc,
        List.replicate_append_replicate]
      exact .cell _ (Nat.le_add_right ..) (by omega) (ih h.2)

/-- In columns that leave room for its cells a row is shown as it is. -/
theorem showsRow_rowText {widths : List Nat} {cell : String} {cells : List String}
    (h : Fits widths (cell :: cells)) :
    ShowsRow padding widths (cell :: cells) (rowText padding widths (cell :: cells)) := by
  cases widths with
  | nil => exact h.elim
  | cons width widths =>
    rw [rowText, alignRight, String.length_toList]
    exact .row _ (Nat.sub_add_cancel h.1) (showsMore_moreCells h.2)

theorem exists_moreCells_concat (padding : Nat) (widths : List Nat) (cells : List String) :
    ∃ count, moreCells padding widths (cells ++ [""]) =
      moreCells padding widths cells ++ List.replicate count ' ' := by
  induction cells generalizing widths with
  | nil =>
    cases widths with
    | nil => exact ⟨0, rfl⟩
    | cons width widths =>
      refine ⟨padding + width, ?_⟩
      simp [moreCells, alignRight, List.replicate_append_replicate]
  | cons cell cells ih =>
    cases widths with
    | nil => exact ⟨0, rfl⟩
    | cons width widths =>
      obtain ⟨count, hcount⟩ := ih widths
      refine ⟨count, ?_⟩
      simp only [List.cons_append, moreCells, hcount, List.append_assoc]

/-- A cell without text at the end of a row adds spaces only. -/
theorem exists_rowText_concat (padding : Nat) (widths : List Nat) (cell : String)
    (cells : List String) :
    ∃ count, rowText padding widths (cell :: (cells ++ [""])) =
      rowText padding widths (cell :: cells) ++ List.replicate count ' ' := by
  cases widths with
  | nil => exact ⟨0, rfl⟩
  | cons width widths =>
    obtain ⟨count, hcount⟩ := exists_moreCells_concat padding widths cells
    exact ⟨count, by rw [rowText, hcount, rowText, List.append_assoc]⟩

/-! ## Cutting the right end off -/

/-- The last cell of a row is a text without blanks, and is not empty. -/
def EndsVisibly (cells : List String) : Prop :=
  ∃ last, cells.getLast? = some last ∧ Unbroken last ∧ last.toList ≠ []

/-- Nothing is cut off a line that shows a row which ends visibly. -/
theorem ShowsRow.trimEnd_eq {widths : List Nat} {cells : List String} {line : List Char}
    (h : ShowsRow padding widths cells line) (visible : EndsVisibly cells) :
    trimEnd line = line := by
  obtain ⟨last, hlast, unbroken, nonempty⟩ := visible
  obtain ⟨front, rfl⟩ := List.getLast?_eq_some_iff.mp hlast
  obtain ⟨before, rfl⟩ := h.endsWith
  exact Text.trimEnd_append_unbroken before unbroken nonempty

/-- A row that ends visibly is shown by its line. -/
theorem showsRow_trimEnd {widths : List Nat} {row : List String} (h : Fits widths row)
    (visible : EndsVisibly row) :
    ShowsRow padding widths row (trimEnd (rowText padding widths row)) := by
  cases row with
  | nil =>
    obtain ⟨last, hlast, -⟩ := visible
    cases hlast
  | cons cell cells =>
    have hshows : ShowsRow padding widths (cell :: cells) _ := showsRow_rowText h
    rw [hshows.trimEnd_eq visible]
    exact hshows

/-- A cell without text at the end of a row leaves nothing on its line. -/
theorem trimEnd_rowText_concat (widths : List Nat) {row : List String} (nonempty : row ≠ []) :
    trimEnd (rowText padding widths (row ++ [""])) = trimEnd (rowText padding widths row) := by
  cases row with
  | nil => contradiction
  | cons cell cells =>
    obtain ⟨count, hcount⟩ := exists_rowText_concat padding widths cell cells
    have hspaces : ∀ c ∈ List.replicate count ' ', isBlank c = true := by
      intro c hc
      rw [List.eq_of_mem_replicate hc]
      rfl
    rw [List.cons_append, hcount, Text.trimEnd_append_of_blank _ hspaces]

/-! ## The text of a grid -/

/-- The lines of the text of a grid of ended rows are those of its rows, each of them ended. -/
theorem lines_render {rows : List (List String)} {lines : List (List Char)}
    (hlines : rows.map (fun row => trimEnd (rowText padding (columnWidths rows) row)) = lines)
    (h : ∀ line ∈ lines, '\n' ∉ line) :
    render { rows } padding = String.ofList (lines.map fun line => line ++ ['\n']).flatten ∧
      Text.lines (render { rows } padding) = lines := by
  have hrender : render { rows } padding =
      String.ofList (lines.map fun line => line ++ ['\n']).flatten := by
    rw [← hlines, List.map_map, render, Grid.lines, allRows]
    simp only [List.isEmpty_nil, if_true, List.append_nil]
    rfl
  exact ⟨hrender, by rw [hrender, Text.lines_ofList h]⟩

/-- A line shows a row of which blanks at the right end may be missing. A row without cells is an
empty line. -/
inductive ShowsCut (padding : Nat) (widths : List Nat) : List String → List Char → Prop
  | empty : ShowsCut padding widths [] []
  | row {cells : List String} {line blanks : List Char}
      (shows : ShowsRow padding widths cells (line ++ blanks))
      (blank : ∀ c ∈ blanks, isBlank c = true) : ShowsCut padding widths cells line

/-- Any row is shown by its line, up to what is cut off. -/
theorem showsCut_trimEnd {widths : List Nat} {row : List String} (h : Fits widths row) :
    ShowsCut padding widths row (trimEnd (rowText padding widths row)) := by
  cases row with
  | nil =>
    rw [rowText]
    · exact .empty
    · exact nofun
  | cons cell cells =>
    obtain ⟨blanks, hcut, hblank⟩ :=
      Text.trimEnd_append_blanks (rowText padding widths (cell :: cells))
    exact .row (hcut ▸ showsRow_rowText h) hblank

theorem ShowsCut.newline_not_mem {widths : List Nat} {cells : List String} {line : List Char}
    (h : ShowsCut padding widths cells line) (oneLine : ∀ cell ∈ cells, OneLine cell) :
    '\n' ∉ line := by
  cases h with
  | empty => exact List.not_mem_nil
  | row shows _ =>
    exact fun hmem => shows.newline_not_mem oneLine (List.mem_append_left _ hmem)

/-- The lines of cells without line ends have none either. -/
theorem newline_not_mem_lines {rows : List (List String)}
    (h : ∀ row ∈ rows, ∀ cell ∈ row, OneLine cell) :
    ∀ line ∈ rows.map (fun row => trimEnd (rowText padding (columnWidths rows) row)),
      '\n' ∉ line := by
  intro line hline
  obtain ⟨row, hrow, rfl⟩ := List.mem_map.mp hline
  exact (showsCut_trimEnd (fits_columnWidths hrow)).newline_not_mem (h row hrow)

/-- A grid of cells without line ends shows every row on a line of its own, all in the same columns,
up to blanks at the right end. -/
theorem exists_showsCuts {rows : List (List String)} (padding : Nat)
    (h : ∀ row ∈ rows, ∀ cell ∈ row, OneLine cell) : ∃ widths lines,
      render { rows } padding = String.ofList (lines.map fun line => line ++ ['\n']).flatten ∧
        Text.lines (render { rows } padding) = lines ∧
        List.Forall₂ (ShowsCut padding widths) rows lines := by
  obtain ⟨hrender, hread⟩ := lines_render rfl (newline_not_mem_lines h)
  refine ⟨columnWidths rows, _, hrender, hread, ?_⟩
  rw [List.forall₂_map_right_iff, List.forall₂_same]
  exact fun row hrow => showsCut_trimEnd (fits_columnWidths hrow)

/-- A row that a line can show in full: no cell has a line end, and the last one is a text without
blanks. -/
structure Plain (row : List String) : Prop where
  oneLine : ∀ cell ∈ row, OneLine cell
  visible : EndsVisibly row

/-- Cells without blanks, the last of them not empty, can be shown in full. -/
theorem Plain.of_unbroken {cells : List String} {last : String}
    (unbroken : ∀ cell ∈ cells, Unbroken cell) (hlast : cells.getLast? = some last)
    (nonempty : last.toList ≠ []) : Plain cells where
  oneLine cell h := (unbroken cell h).oneLine
  visible := ⟨last, hlast, unbroken last (List.mem_of_getLast? hlast), nonempty⟩

/-- A key before cells that a line can show in full. -/
theorem Plain.cons {key : String} {cells : List String} (plain : Plain cells)
    (hkey : OneLine key) : Plain (key :: cells) := by
  obtain ⟨last, hlast, hvisible⟩ := plain.visible
  refine ⟨List.forall_mem_cons.mpr ⟨hkey, plain.oneLine⟩, last, ?_, hvisible⟩
  rw [List.getLast?_cons, hlast, Option.getD_some]

theorem Plain.ne_nil {row : List String} (plain : Plain row) : row ≠ [] := by
  obtain ⟨last, hlast, -⟩ := plain.visible
  rintro rfl
  cases hlast

/-- A grid of plain rows below a heading shows them on one line each, all in the same columns. The
last column has only a heading. -/
theorem exists_showsRows {heading : List String} {rows : List (List String)} (padding : Nat)
    (hheading : Plain heading) (hrows : ∀ row ∈ rows, Plain row) :
    ∃ widths first others,
      let text := render { rows := heading :: rows.map fun row => row ++ [""] } padding
      text = String.ofList ((first :: others).map fun line => line ++ ['\n']).flatten ∧
        Text.lines text = first :: others ∧ ShowsRow padding widths heading first ∧
        List.Forall₂ (ShowsRow padding widths) rows others := by
  let allRows := heading :: rows.map fun row => row ++ [""]
  let line := fun row => trimEnd (rowText padding (columnWidths allRows) row)
  have hfirst : ShowsRow padding (columnWidths allRows) heading (line heading) :=
    showsRow_trimEnd (fits_columnWidths List.mem_cons_self) hheading.visible
  have hothers : ∀ row ∈ rows, ShowsRow padding (columnWidths allRows) row (line row) := by
    intro row hrow
    have hmem : row ++ [""] ∈ allRows := List.mem_cons_of_mem _ (List.mem_map_of_mem hrow)
    exact showsRow_trimEnd (fits_columnWidths hmem).of_append (hrows row hrow).visible
  -- The last cells are measured with the others, but they leave nothing on the lines.
  have hlines : allRows.map line = line heading :: rows.map line := by
    rw [List.map_cons, List.map_map]
    congr 1
    apply List.map_congr_left
    intro row hrow
    exact trimEnd_rowText_concat _ (hrows row hrow).ne_nil
  have unbroken : ∀ text ∈ line heading :: rows.map line, '\n' ∉ text := by
    intro text htext
    rcases List.mem_cons.mp htext with rfl | hmem
    · exact hfirst.newline_not_mem hheading.oneLine
    · obtain ⟨row, hrow, rfl⟩ := List.mem_map.mp hmem
      exact (hothers row hrow).newline_not_mem (hrows row hrow).oneLine
  obtain ⟨hrender, hread⟩ := lines_render hlines unbroken
  refine ⟨_, _, _, hrender, hread, hfirst, ?_⟩
  exact List.forall₂_map_right_iff.mpr (List.forall₂_same.mpr hothers)

end LoadWatch.Grid
