/-
  Proofs/ReportLines.lean --- what the lines of the reports say.

  WHAT THIS FILE IS FOR.  Programs that read the reports get a line of JSON for
  every difference.  Here it is shown that the line says what the difference
  holds, neither more nor less: it is read back as a document, and the document
  is compared with the difference member by member (`Activity.Tells`,
  `LockTimes.Tells`, `TellsDiff`).

  For the stat line the members are the cells.  A column that is selected twice
  has the same cell both times (`cells_agree`), so that nothing is lost where an
  object has room for one member per key only.  A stat line with an average that
  64 bits do not hold has no JSON line.

  The order of the members of an object means nothing; what they are compared
  with is given in the order in which it is best read.

  Main result: `reports_tell`.
-/
import LoadWatch.NamespaceTop
import LoadWatch.Proofs.FailingCells
import LoadWatch.Proofs.LabelledLines

set_option autoImplicit false

namespace LoadWatch

open Json

namespace Report

/-! ## Objects -/

/-- The document is an object with the given members. -/
def HasMembers (document : Value) (members : List (String × Value)) : Prop :=
  ∃ entries, document = .object entries ∧ entries.Perm members

/-- The document is an object that tells the entries of a table, key by key. -/
def TellsTable {α : Type} (Tells : α → Value → Prop) (table : Table α) (document : Value) : Prop :=
  ∃ members, document = .object members ∧
    List.Forall₂ (fun entry member => entry.1 = member.1 ∧ Tells entry.2 member.2) table.entries
      members

/-- The member that names a host, if there is one to name. -/
def hostMember (host : Option String) : List (String × Value) :=
  host.toList.map fun name => ("host", .string name)

/-- The line tells a difference: the moment, what is known about every key, and the host. -/
structure TellsDiff {α : Type} (Tells : α → Value → Prop) (time : Time.Moment) (table : Table α)
    (host : Option String) (line : String) : Prop where
  /-- There is no control character, so that it is one line. -/
  printable : Printable line.toList
  reads : ∃ document totals, Value.ofText? line = some document ∧
    TellsTable Tells table totals ∧
    HasMembers document
      ([("time", .string time.exactText), ("totals", totals)] ++ hostMember host)

section

variable {α : Type} {Tells : α → Value → Prop} {entryDocument : α → Value} {table : Table α}

theorem writable_tableDocument {limit : Nat}
    (h : ∀ entry ∈ table.entries, (entryDocument entry.2).Writable limit) :
    (tableDocument entryDocument table).Writable (limit + 1) := by
  refine Value.writable_object_iff.mpr ⟨List.pairwise_map.mpr table.ascending, ?_⟩
  · intro member hmember
    obtain ⟨entry, hentry, rfl⟩ := List.mem_map.mp hmember
    exact h entry hentry

theorem tellsTable_tableDocument
    (h : ∀ entry ∈ table.entries, Tells entry.2 (entryDocument entry.2)) :
    TellsTable Tells table (tableDocument entryDocument table) := by
  refine ⟨_, rfl, ?_⟩
  rw [List.forall₂_map_right_iff, List.forall₂_same]
  exact fun entry hentry => ⟨rfl, h entry hentry⟩

/-- The label of the host is one more member. -/
theorem hasMembers_labelled (time totals : Value) (options : RenderOptions) :
    HasMembers (labelled (.object [("time", time), ("totals", totals)]) options)
      ([("time", time), ("totals", totals)] ++ hostMember options.host) := by
  cases hhost : options.host with
  | none =>
    rw [labelled_of_host_eq_none hhost]
    exact ⟨_, rfl, .refl _⟩
  | some host =>
    rw [labelled_of_host_eq_some hhost]
    refine ⟨_, rfl, ?_⟩
    have hfirst : "host" < "time" := by decide
    rw [Keyed.insert, if_pos hfirst]
    exact (List.perm_append_singleton ("host", Value.string host) _).symm

/-- A line tells a difference if the documents of its entries tell the entries. -/
theorem tellsDiff_line {limit : Nat} (hlimit : limit + 2 ≤ nestingLimit)
    (writable : ∀ entry ∈ table.entries, (entryDocument entry.2).Writable limit)
    (tells : ∀ entry ∈ table.entries, Tells entry.2 (entryDocument entry.2))
    (time : Time.Moment) (options : RenderOptions) :
    TellsDiff Tells time table options.host (line (.object [("time", .string time.exactText),
      ("totals", tableDocument entryDocument table)]) options) := by
  have hdocument : (Value.object [("time", .string time.exactText),
      ("totals", tableDocument entryDocument table)]).Writable nestingLimit :=
    (Value.writable_pair (by decide) (Value.writable_string _ _)
      (writable_tableDocument writable)).mono hlimit
  exact {
    printable := printable_line hdocument options
    reads := ⟨_, _, ofText?_line hdocument options, tellsTable_tableDocument tells,
      hasMembers_labelled _ _ options⟩ }

end

end Report

/-! ## Differences -/

namespace NamespaceTop

/-- The document tells a usage. -/
def Usage.Tells (usage : Usage) (document : Value) : Prop :=
  Report.HasMembers document [("time", .ofInt usage.time), ("count", .ofInt usage.count)]

/-- The document tells the usage of a namespace: of all operations, and of those of each kind. -/
def Activity.Tells (activity : Activity) (document : Value) : Prop :=
  ∃ total read write, activity.total.Tells total ∧ activity.read.Tells read ∧
    activity.write.Tells write ∧
    Report.HasMembers document [("total", total), ("read", read), ("write", write)]

/-- The time and the count are integers of 64 bits. -/
structure Usage.Fits (usage : Usage) : Prop where
  time : FitsInt64 usage.time
  count : FitsInt64 usage.count

/-- All times and counts are integers of 64 bits. -/
structure Activity.Fits (activity : Activity) : Prop where
  total : activity.total.Fits
  read : activity.read.Fits
  write : activity.write.Fits

theorem Usage.tells_document (usage : Usage) : usage.Tells usage.document :=
  ⟨_, rfl, .swap _ _ _⟩

theorem Activity.tells_document (activity : Activity) : activity.Tells activity.document :=
  ⟨_, _, _, activity.total.tells_document, activity.read.tells_document,
    activity.write.tells_document, _, rfl, .swap _ _ _⟩

theorem Usage.Fits.writable {usage : Usage} (h : usage.Fits) : usage.document.Writable 1 :=
  Value.writable_pair (by decide) (Value.writable_ofInt 0 h.count) (Value.writable_ofInt 0 h.time)

theorem Activity.Fits.writable {activity : Activity} (h : activity.Fits) :
    activity.document.Writable 2 := by
  refine Value.writable_object_iff.mpr
    ⟨Keyed.ascending_of_keys ["read", "total", "write"] rfl (by decide), ?_⟩
  simp only [List.forall_mem_cons, List.not_mem_nil, false_imp_iff, implies_true, and_true]
  exact ⟨h.read.writable, h.total.writable, h.write.writable⟩

/-- The line of a difference tells it. -/
theorem Diff.tells_json {diff : Diff} (h : ∀ entry ∈ diff.totals.entries, entry.2.Fits)
    (options : RenderOptions) :
    Report.TellsDiff Activity.Tells diff.time diff.totals options.host (diff.json options) :=
  Report.tellsDiff_line (by decide) (fun entry hentry => (h entry hentry).writable)
    (fun entry _ => entry.2.tells_document) diff.time options

end NamespaceTop

namespace LockUsage

/-- The document tells the lock times of a database. -/
def LockTimes.Tells (times : LockTimes) (document : Value) : Prop :=
  Report.HasMembers document [("read", .ofInt times.read), ("write", .ofInt times.write)]

/-- The times are integers of 64 bits. -/
structure LockTimes.Fits (times : LockTimes) : Prop where
  read : FitsInt64 times.read
  write : FitsInt64 times.write

theorem LockTimes.tells_document (times : LockTimes) : times.Tells times.document :=
  ⟨_, rfl, .refl _⟩

theorem LockTimes.Fits.writable {times : LockTimes} (h : times.Fits) :
    times.document.Writable 1 :=
  Value.writable_pair (by decide) (Value.writable_ofInt 0 h.read) (Value.writable_ofInt 0 h.write)

/-- The line of a difference tells it. -/
theorem Diff.tells_json {diff : Diff} (h : ∀ entry ∈ diff.totals.entries, entry.2.Fits)
    (options : RenderOptions) :
    Report.TellsDiff LockTimes.Tells diff.time diff.totals options.host (diff.json options) :=
  Report.tellsDiff_line (by decide) (fun entry hentry => (h entry hentry).writable)
    (fun entry _ => entry.2.tells_document) diff.time options

end LockUsage

/-! ## The stat line -/

namespace ServerStatus

/-- The line tells the cells of a server: the object under its name has a member for every key,
with the text of the cell. -/
structure TellsCells (host : String) (cells : List (String × String)) (line : String) : Prop where
  /-- There is no control character, so that it is one line. -/
  printable : Printable line.toList
  /-- Cells with the same key are the same. -/
  agree : ∀ cell ∈ cells, ∀ other ∈ cells, cell.1 = other.1 → cell = other
  reads : ∃ members, Value.ofText? line = some (.object [(host, .object members)]) ∧
    Keyed.Ascending members ∧
    ∀ key value, (key, value) ∈ members ↔ ∃ cell, (key, cell) ∈ cells ∧ value = .string cell

/-- A column that is selected twice has the same cell both times. -/
theorem cells_agree {line : StatLine} {options : RenderOptions} {cells : List (String × String)}
    (h : line.cells options = .ok cells) :
    ∀ cell ∈ cells, ∀ other ∈ cells, cell.1 = other.1 → cell = other := by
  intro cell hcell other hother hkey
  obtain ⟨left, hleft, hleftKey, hleftRead⟩ := (mem_readAll_iff h).mp hcell
  obtain ⟨right, hright, hrightKey, hrightRead⟩ := (mem_readAll_iff h).mp hother
  have hsame : left = right := by
    rw [← ofKey_key hleft, ← ofKey_key hright, hleftKey, hrightKey, hkey]
  rw [hsame, hrightRead] at hleftRead
  exact Prod.ext hkey (Except.ok.inj hleftRead).symm

/-- The document of cells that do not contradict each other tells them. -/
theorem tellsCells_render {host : String} {cells : List (String × String)}
    (agree : ∀ cell ∈ cells, ∀ other ∈ cells, cell.1 = other.1 → cell = other) :
    TellsCells host cells (StatLine.document host cells).render := by
  let pairs := cells.map fun cell => (cell.1, Value.string cell.2)
  have hpairs : ∀ pair ∈ pairs, ∀ other ∈ pairs, pair.1 = other.1 → pair = other := by
    intro pair hpair other hother hkey
    obtain ⟨cell, hcell, rfl⟩ := List.mem_map.mp hpair
    obtain ⟨cell', hcell', rfl⟩ := List.mem_map.mp hother
    rw [agree cell hcell cell' hcell' hkey]
  have hstrings : (Value.ofMembers pairs).Writable 1 := by
    refine Value.writable_object_iff.mpr ⟨Keyed.ascending_ofPairs pairs, ?_⟩
    intro member hmember
    obtain ⟨cell, -, rfl⟩ := List.mem_map.mp (Keyed.mem_of_mem_ofPairs hmember)
    exact Value.writable_string 0 cell.2
  have hdocument : (StatLine.document host cells).Writable 2 :=
    Value.writable_object_iff.mpr
      ⟨List.pairwise_singleton _ _, List.forall_mem_singleton.mpr hstrings⟩
  refine ⟨Value.printable_render hdocument, agree, Keyed.ofPairs pairs, ?_,
    Keyed.ascending_ofPairs pairs, ?_⟩
  · exact Value.ofText?_render (hdocument.mono (by decide))
  · intro key value
    rw [Keyed.mem_ofPairs_iff hpairs, List.mem_map]
    constructor
    · rintro ⟨cell, hcell, heq⟩
      obtain ⟨rfl, rfl⟩ := Prod.mk.inj heq
      exact ⟨cell.2, hcell, rfl⟩
    · rintro ⟨cell, hcell, rfl⟩
      exact ⟨(key, cell), hcell, rfl⟩

/-- The line tells its cells, if it has any. -/
theorem StatLine.tells_json {line : StatLine} {options : RenderOptions}
    (h : ¬Overflows line options) : ∃ cells text, line.cells options = .ok cells ∧
      line.json options = .ok text ∧ TellsCells line.current.status.host cells text := by
  rw [← fails_cells] at h
  cases hcells : line.cells options with
  | error fault => exact absurd ⟨fault, hcells⟩ h
  | ok cells =>
    refine ⟨cells, _, rfl, ?_, tellsCells_render (cells_agree hcells)⟩
    rw [StatLine.json, hcells]
    rfl

theorem StatLine.fails_json {line : StatLine} {options : RenderOptions}
    (h : Overflows line options) : Fails (line.json options) := by
  obtain ⟨fault, hfault⟩ := (fails_cells line options).mpr h
  refine ⟨fault, ?_⟩
  rw [StatLine.json, hfault]
  rfl

end ServerStatus

/-! ## Reports -/

/-- Every difference whose numbers have 64 bits is told by its JSON line, except for a stat line
that shows an average that 64 bits do not hold: it has no JSON line. -/
theorem reports_tell (options : RenderOptions) :
    (∀ diff : NamespaceTop.Diff,
      (∀ entry ∈ diff.totals.entries, entry.2.Fits) →
        ∃ line, NamespaceTop.report.json options diff = .ok line ∧
          Report.TellsDiff NamespaceTop.Activity.Tells diff.time diff.totals options.host line) ∧
    (∀ diff : LockUsage.Diff,
      (∀ entry ∈ diff.totals.entries, entry.2.Fits) →
        ∃ line, LockUsage.report.json options diff = .ok line ∧
          Report.TellsDiff LockUsage.LockTimes.Tells diff.time diff.totals options.host line) ∧
    (∀ line : ServerStatus.StatLine,
      if ServerStatus.Overflows line options then
        ServerStatus.Fails (ServerStatus.report.json options line)
      else ∃ cells text, line.cells options = .ok cells ∧
        ServerStatus.report.json options line = .ok text ∧
          ServerStatus.TellsCells line.current.status.host cells text) := by
  refine ⟨?_, ?_, ?_⟩
  · intro diff fits
    exact ⟨_, rfl, NamespaceTop.Diff.tells_json fits options⟩
  · intro diff fits
    exact ⟨_, rfl, LockUsage.Diff.tells_json fits options⟩
  · intro line
    split
    · exact ServerStatus.StatLine.fails_json ‹_›
    · exact ServerStatus.StatLine.tells_json ‹_›

/-- Namespaces with what has to be escaped in their names, and with both ends of 64 bits. -/
def extremeUsage : NamespaceTop.Diff where
  cores := 0
  elapsed := ⟨0⟩
  current := { time := ⟨0, 0⟩, cores := 0, totals := .empty }
  totals := .ofPairs [
    ("b\n\t\"\\\x00.é", { total := ⟨minInt64, maxInt64⟩, write := ⟨maxInt64, minInt64⟩ }),
    ("a\x1f", {})]
  time := ⟨-1, 5400⟩

theorem fits_extremeUsage : ∀ entry ∈ extremeUsage.totals.entries, entry.2.Fits := by
  intro entry hentry
  have hpair := Keyed.mem_of_mem_ofPairs hentry
  simp only [List.mem_cons, List.not_mem_nil, or_false] at hpair
  have hempty : NamespaceTop.Usage.Fits {} := ⟨by decide, by decide⟩
  rcases hpair with rfl | rfl
  · exact ⟨⟨by decide, by decide⟩, hempty, ⟨by decide, by decide⟩⟩
  · exact ⟨hempty, hempty, hempty⟩

/-- A column that is asked for twice. -/
def repeatedColumns : RenderOptions := { fields := some ["conn", "time", "conn"] }

/-- Extreme namespaces are told with their host; so are the cells of a line that is asked twice for
a column, as long as it is not asked for the average that it does not have. -/
theorem extremeUsage_told :
    (∀ entry ∈ extremeUsage.totals.entries, entry.2.Fits) ∧
    (∃ line, NamespaceTop.report.json { host := some "db-2:28017" } extremeUsage = .ok line ∧
      Report.TellsDiff NamespaceTop.Activity.Tells extremeUsage.time extremeUsage.totals
        (some "db-2:28017") line) ∧
    ¬ServerStatus.Overflows ServerStatus.overflowingLine repeatedColumns ∧
    ∃ cells text, ServerStatus.overflowingLine.cells repeatedColumns = .ok cells ∧
      ServerStatus.report.json repeatedColumns ServerStatus.overflowingLine = .ok text ∧
      ServerStatus.TellsCells "" cells text := by
  obtain ⟨namespaces, -, -⟩ := reports_tell { host := some "db-2:28017" }
  obtain ⟨-, -, lines⟩ := reports_tell repeatedColumns
  have hshown : ¬ServerStatus.Overflows ServerStatus.overflowingLine repeatedColumns := by
    decide
  have htold := lines ServerStatus.overflowingLine
  rw [if_neg hshown] at htold
  exact ⟨fits_extremeUsage, namespaces extremeUsage fits_extremeUsage, hshown, htold⟩

/-- A line that shows an average that 64 bits do not hold is not told. -/
theorem overflowingLine_untold : ¬∃ text,
    ServerStatus.report.json { fields := some ["glems"] } ServerStatus.overflowingLine =
      .ok text := by
  have hoverflow : ServerStatus.Overflows ServerStatus.overflowingLine
      { fields := some ["glems"] } := by
    decide
  rintro ⟨text, htext⟩
  obtain ⟨fault, hfault⟩ := ServerStatus.StatLine.fails_json hoverflow
  cases htext.symm.trans hfault

end LoadWatch
