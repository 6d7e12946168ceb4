/-
  Proofs/CursorReading.lean --- what comes of the cursor on operation metrics.

  WHAT THIS FILE IS FOR.  A cursor is a list of items of any length, each a
  document or the failure to read one.  Here it is said, for every cursor, when
  there is a snapshot and what is in it, and otherwise which fault there is
  (`cursorOutcomes`).

  What the document of a database shows is said without the decoder
  (`ShowsEntry`), and so is what is wrong with an item (`Faulty`).  One item is
  read exactly as they say (`ofItem_eq_ok_iff`, `ofItem_eq_error_iff`).

  A run over the cursor is then an induction over its items.  Up to the first
  faulty item every item adds its entry to the table, and a database that is
  described again gets the later entry: the table has, under every name, what
  the last item that names it describes (`get?_collect`).  At the first faulty
  item the run ends with its fault, and what follows is not looked at
  (`collect_eq_error_iff`, `collect_append_of_error`).
-/
import LoadWatch.OperationMetrics
import LoadWatch.Proofs.Records

set_option autoImplicit false

namespace LoadWatch.OperationMetrics

open Json

/-! ## What the documents show -/

/-- The parts of what was read as they are written. -/
def readsKeys : List String :=
  ["docBytesRead", "docUnitsRead", "idxEntryBytesRead", "idxEntryUnitsRead", "keysSorted",
    "sorterSpills", "docUnitsReturned", "cursorSeeks"]

/-- The document shows what was read: every part has its own counter, and one that is missing
counts as zero. -/
def ShowsReads (value : Value) (reads : Reads) : Prop :=
  ∃ parts, value.parts? readsKeys = some parts ∧
    PartShows parts "docBytesRead" ShowsCounter 0 reads.documentBytes ∧
    PartShows parts "docUnitsRead" ShowsCounter 0 reads.documentUnits ∧
    PartShows parts "idxEntryBytesRead" ShowsCounter 0 reads.indexBytes ∧
    PartShows parts "idxEntryUnitsRead" ShowsCounter 0 reads.indexUnits ∧
    PartShows parts "keysSorted" ShowsCounter 0 reads.keysSorted ∧
    PartShows parts "sorterSpills" ShowsCounter 0 reads.sorterSpills ∧
    PartShows parts "docUnitsReturned" ShowsCounter 0 reads.unitsReturned ∧
    PartShows parts "cursorSeeks" ShowsCounter 0 reads.cursorSeeks

/-- The document shows the metrics of a database: it is an object with the name of the database, and
metrics that are missing are zero. -/
def ShowsEntry (document : Value) (entry : Entry) : Prop :=
  ∃ members, document = .object members ∧ ("db", .string entry.database) ∈ members ∧
    PartShows members "primaryMetrics" ShowsReads {} entry.metrics.primary ∧
    PartShows members "secondaryMetrics" ShowsReads {} entry.metrics.secondary ∧
    PartShows members "docBytesWritten" ShowsCounter 0 entry.metrics.documentBytesWritten ∧
    PartShows members "docUnitsWritten" ShowsCounter 0 entry.metrics.documentUnitsWritten ∧
    PartShows members "idxEntryBytesWritten" ShowsCounter 0 entry.metrics.indexBytesWritten ∧
    PartShows members "idxEntryUnitsWritten" ShowsCounter 0 entry.metrics.indexUnitsWritten ∧
    PartShows members "cpuNanos" ShowsCounter 0 entry.metrics.processorTime

/-- The item could be read and shows the metrics of a database. -/
def Describes (item : CursorItem) (entry : Entry) : Prop :=
  ∃ document, item = .ok document ∧ ShowsEntry document entry

/-- The item describes the database of this name. -/
def Names (item : CursorItem) (name : String) : Prop := ∃ metrics, Describes item ⟨name, metrics⟩

/-- The item is the last one of the cursor that describes the database of this name. -/
def LastNaming (cursor : List CursorItem) (name : String) (item : CursorItem) : Prop :=
  ∃ before after, cursor = before ++ item :: after ∧ Names item name ∧
    ∀ later ∈ after, ¬Names later name

/-- What is wrong with an item: it could not be read, its document has no name of a database, or the
document is not that of an entry. -/
inductive Faulty : CursorItem → DecodeFault → Prop
  | unread (failure : Failure) : Faulty (.error failure) (.cursor failure.text)
  | unnamed {document : Value} (h : ¬∃ name, document.Has "db" name) :
      Faulty (.ok document) (.missing "db")
  | malformed {document name : Value} {mismatch : Mismatch} (named : document.Has "db" name)
      (h : ¬∃ entry, ShowsEntry document entry)
      (hmismatch : entrySchema.decode document = .error mismatch) :
      Faulty (.ok document) (.malformed mismatch)

/-! ## One item -/

/-- Every count of what was read is kept in a place of its own. -/
def readsLayout : Layout readsSchema where
  slots := [
    .of "docBytesRead" decodesAs_counter (fun n reads => { reads with documentBytes := n })
      (·.documentBytes),
    .of "docUnitsRead" decodesAs_counter (fun n reads => { reads with documentUnits := n })
      (·.documentUnits),
    .of "idxEntryBytesRead" decodesAs_counter (fun n reads => { reads with indexBytes := n })
      (·.indexBytes),
    .of "idxEntryUnitsRead" decodesAs_counter (fun n reads => { reads with indexUnits := n })
      (·.indexUnits),
    .of "keysSorted" decodesAs_counter (fun n reads => { reads with keysSorted := n })
      (·.keysSorted),
    .of "sorterSpills" decodesAs_counter (fun n reads => { reads with sorterSpills := n })
      (·.sorterSpills),
    .of "docUnitsReturned" decodesAs_counter (fun n reads => { reads with unitsReturned := n })
      (·.unitsReturned),
    .of "cursorSeeks" decodesAs_counter (fun n reads => { reads with cursorSeeks := n })
      (·.cursorSeeks)]
  fields_eq := rfl
  nodup := by decide
  apart := by simp [Slot.Apart, Slot.of]
  ext {left right} h := by
    obtain ⟨_, _, _, _, _, _, _, _⟩ := left
    obtain ⟨_, _, _, _, _, _, _, _⟩ := right
    simpa [Slot.of] using h

theorem decodesAs_reads : DecodesAs readsSchema.decode ShowsReads := by
  intro value canonical reads
  rw [readsLayout.decodesAs canonical]
  simp [Layout.Shows, Layout.names, readsLayout, Slot.of, Slot.Holds, ShowsReads, readsSchema,
    readsKeys]

/-- The slot of a member of the metrics of a database. -/
def metricSlot {α : Type} {decode : Decoder α} {Shows : Value → α → Prop} (name : String)
    (decodesAs : DecodesAs decode Shows) (store : α → Metrics → Metrics) (get : Metrics → α)
    (get_store : ∀ item metrics, get (store item metrics) = item := by exact fun _ _ => rfl) :
    Slot Entry :=
  .of name decodesAs (fun item entry => { entry with metrics := store item entry.metrics })
    (fun entry => get entry.metrics) fun item entry => get_store item entry.metrics

/-- The name of the database and each of its metrics are kept in places of their own. -/
def entryLayout : Layout entrySchema where
  slots := [
    .of "db" decodesAs_text (fun name entry => { entry with database := name }) (·.database),
    metricSlot "primaryMetrics" decodesAs_reads
      (fun reads metrics => { metrics with primary := reads }) (·.primary),
    metricSlot "secondaryMetrics" decodesAs_reads
      (fun reads metrics => { metrics with secondary := reads }) (·.secondary),
    metricSlot "docBytesWritten" decodesAs_counter
      (fun n metrics => { metrics with documentBytesWritten := n }) (·.documentBytesWritten),
    metricSlot "docUnitsWritten" decodesAs_counter
      (fun n metrics => { metrics with documentUnitsWritten := n }) (·.documentUnitsWritten),
    metricSlot "idxEntryBytesWritten" decodesAs_counter
      (fun n metrics => { metrics with indexBytesWritten := n }) (·.indexBytesWritten),
    metricSlot "idxEntryUnitsWritten" decodesAs_counter
      (fun n metrics => { metrics with indexUnitsWritten := n }) (·.indexUnitsWritten),
    metricSlot "cpuNanos" decodesAs_counter
      (fun n metrics => { metrics with processorTime := n }) (·.processorTime)]
  fields_eq := rfl
  nodup := by decide
  apart := by simp [Slot.Apart, Slot.of, metricSlot]
  ext {left right} h := by
    obtain ⟨_, _, _, _, _, _, _, _⟩ := left
    obtain ⟨_, _, _, _, _, _, _, _⟩ := right
    simpa [Slot.of, metricSlot] using h

theorem ShowsEntry.has {document : Value} {entry : Entry} (h : ShowsEntry document entry) :
    document.Has "db" (.string entry.database) := by
  obtain ⟨members, rfl, hname, -⟩ := h
  exact ⟨members, rfl, hname⟩

/-- A document that has the name of a database decodes exactly if it shows an entry. -/
theorem decode_entry_iff {document name : Value} (canonical : document.Canonical)
    (named : document.Has "db" name) (entry : Entry) :
    entrySchema.decode document = .ok entry ↔ ShowsEntry document entry := by
  rw [entryLayout.decodesAs canonical]
  obtain ⟨members, rfl, hname⟩ := named
  have ascending := (Value.canonical_object_iff.mp canonical).1
  have hlookup := (Keyed.lookup_eq_some_iff ascending).mpr hname
  have hdatabase : PartShows members "db" ShowsText "" entry.database ↔
      ("db", .string entry.database) ∈ members := by
    rw [← Keyed.lookup_eq_some_iff ascending, PartShows, hlookup, Option.some.injEq]
    exact Iff.rfl
  simp [Layout.Shows, entryLayout, Slot.of, metricSlot, Slot.Holds, Value.parts?, ShowsEntry,
    entrySchema, hdatabase]

/-- The document of the item is canonical, if it could be read. -/
def CanonicalItem (item : CursorItem) : Prop := ∀ document, item = .ok document → document.Canonical

variable {item : CursorItem}

theorem ofItem_eq_ok_iff (canonical : CanonicalItem item) {entry : Entry} :
    Entry.ofItem item = .ok entry ↔ Describes item entry := by
  cases item with
  | error failure =>
    refine ⟨nofun, ?_⟩
    rintro ⟨document, h, -⟩
    cases h
  | ok document =>
    have hcanonical : document.Canonical := canonical document rfl
    have hdescribes : Describes (.ok document) entry ↔ ShowsEntry document entry := by
      simp [Describes]
    rw [hdescribes, Entry.ofItem]
    cases hmember : document.member? "db" with
    | none =>
      have hnone := hcanonical.member?_eq_none_iff.mp hmember
      exact ⟨nofun, fun hshows => absurd ⟨_, hshows.has⟩ hnone⟩
    | some name =>
      rw [← decode_entry_iff hcanonical (hcanonical.member?_eq_some_iff.mp hmember)]
      cases entrySchema.decode document with
      | error mismatch => exact ⟨nofun, nofun⟩
      | ok other => simp only [Except.ok.injEq]

/-- What is wrong with an item is its fault. -/
theorem Faulty.ofItem_eq {fault : DecodeFault} (canonical : CanonicalItem item)
    (h : Faulty item fault) : Entry.ofItem item = .error fault := by
  cases h with
  | unread failure => rfl
  | @unnamed document hnone =>
    rw [Entry.ofItem, (canonical document rfl).member?_eq_none_iff.mpr hnone]
  | @malformed document name mismatch named _ hmismatch =>
    rw [Entry.ofItem, (canonical document rfl).member?_eq_some_iff.mpr named]
    simp only [hmismatch]

theorem faulty_of_ofItem {fault : DecodeFault} (canonical : CanonicalItem item)
    (h : Entry.ofItem item = .error fault) : Faulty item fault := by
  cases item with
  | error failure =>
    obtain rfl := Except.error.inj h
    exact .unread failure
  | ok document =>
    have hcanonical : document.Canonical := canonical document rfl
    rw [Entry.ofItem] at h
    cases hmember : document.member? "db" with
    | none =>
      rw [hmember] at h
      obtain rfl := Except.error.inj h
      exact .unnamed (hcanonical.member?_eq_none_iff.mp hmember)
    | some name =>
      have named : document.Has "db" name := hcanonical.member?_eq_some_iff.mp hmember
      cases hdecode : entrySchema.decode document with
      | ok entry => simp [hmember, hdecode] at h
      | error mismatch =>
        simp only [hmember, hdecode] at h
        obtain rfl := Except.error.inj h
        refine .malformed named ?_ hdecode
        rintro ⟨entry, hshows⟩
        rw [(decode_entry_iff hcanonical named entry).mpr hshows] at hdecode
        cases hdecode

theorem ofItem_eq_error_iff (canonical : CanonicalItem item) {fault : DecodeFault} :
    Entry.ofItem item = .error fault ↔ Faulty item fault :=
  ⟨faulty_of_ofItem canonical, Faulty.ofItem_eq canonical⟩

/-! ## The cursor -/

/-- Items up to the first faulty one are collected; then the fault is all there is. -/
theorem collect_append_of_error {item : CursorItem} {fault : DecodeFault}
    (h : Entry.ofItem item = .error fault) (before rest : List CursorItem)
    (databases : Table Metrics) :
    collect (before ++ item :: rest) databases = collect (before ++ [item]) databases := by
  induction before generalizing databases with
  | nil => simp only [List.nil_append, collect, h]
  | cons first before ih =>
    rw [List.cons_append, List.cons_append, collect, collect]
    cases Entry.ofItem first with
    | error other => rfl
    | ok entry => exact ih _

/-- What comes first is the head, or the head is passed and it comes first in the tail. -/
theorem exists_first_cons_iff {α : Type} {Passed Found : α → Prop} {head : α} {tail : List α} :
    (∃ before item after, head :: tail = before ++ item :: after ∧
      (∀ earlier ∈ before, Passed earlier) ∧ Found item) ↔
      Found head ∨ Passed head ∧ ∃ before item after, tail = before ++ item :: after ∧
        (∀ earlier ∈ before, Passed earlier) ∧ Found item := by
  constructor
  · rintro ⟨_ | ⟨first, before⟩, item, after, heq, hbefore, hfound⟩
    · obtain ⟨rfl, rfl⟩ := List.cons.inj heq
      exact .inl hfound
    · obtain ⟨rfl, rfl⟩ := List.cons.inj heq
      obtain ⟨hfirst, hrest⟩ := List.forall_mem_cons.mp hbefore
      exact .inr ⟨hfirst, before, item, after, rfl, hrest, hfound⟩
  · rintro (hfound | ⟨hpassed, before, item, after, rfl, hbefore, hfound⟩)
    · exact ⟨[], head, tail, rfl, nofun, hfound⟩
    · exact ⟨head :: before, item, after, rfl, List.forall_mem_cons.mpr ⟨hpassed, hbefore⟩, hfound⟩

/-- A fault is that of the first item that has one. -/
theorem collect_eq_error_iff {cursor : List CursorItem} {databases : Table Metrics}
    {fault : DecodeFault} : collect cursor databases = .error fault ↔
      ∃ before item after, cursor = before ++ item :: after ∧
        (∀ earlier ∈ before, ∃ entry, Entry.ofItem earlier = .ok entry) ∧
        Entry.ofItem item = .error fault := by
  induction cursor generalizing databases with
  | nil => simp [collect]
  | cons first cursor ih =>
    rw [exists_first_cons_iff, collect]
    cases Entry.ofItem first with
    | error other => simp
    | ok entry => simp [ih]

/-- The last item that names a database is the head, and no other does, or it is in the tail. -/
theorem lastNaming_cons_iff {head item : CursorItem} {tail : List CursorItem} {name : String} :
    LastNaming (head :: tail) name item ↔
      LastNaming tail name item ∨
        item = head ∧ Names head name ∧ ∀ later ∈ tail, ¬Names later name := by
  constructor
  · rintro ⟨_ | ⟨first, before⟩, after, heq, hnames, hlater⟩
    · obtain ⟨rfl, rfl⟩ := List.cons.inj heq
      exact .inr ⟨rfl, hnames, hlater⟩
    · obtain ⟨rfl, rfl⟩ := List.cons.inj heq
      exact .inl ⟨before, after, rfl, hnames, hlater⟩
  · rintro (⟨before, after, rfl, hnames, hlater⟩ | ⟨rfl, hnames, hlater⟩)
    · exact ⟨head :: before, after, rfl, hnames, hlater⟩
    · exact ⟨[], tail, rfl, hnames, hlater⟩

/-- A database that is named in a cursor has a last item that names it. -/
theorem exists_lastNaming {cursor : List CursorItem} {name : String}
    (h : ∃ item ∈ cursor, Names item name) : ∃ item, LastNaming cursor name item := by
  induction cursor with
  | nil => simp at h
  | cons head tail ih =>
    by_cases htail : ∃ item ∈ tail, Names item name
    · obtain ⟨item, hlast⟩ := ih htail
      exact ⟨item, lastNaming_cons_iff.mpr (.inl hlast)⟩
    · obtain ⟨item, hitem, hnames⟩ := h
      have hnone : ∀ later ∈ tail, ¬Names later name := fun later hmem hlater =>
        htail ⟨later, hmem, hlater⟩
      rcases List.mem_cons.mp hitem with rfl | hmem
      · exact ⟨item, lastNaming_cons_iff.mpr (.inr ⟨rfl, hnames, hnone⟩)⟩
      · exact absurd hnames (hnone item hmem)

theorem LastNaming.mem {cursor : List CursorItem} {name : String} {item : CursorItem}
    (h : LastNaming cursor name item) : item ∈ cursor := by
  obtain ⟨before, after, rfl, -⟩ := h
  exact List.mem_append_right before List.mem_cons_self

/-- What the last item on a database describes is in the tail, or it is what the head describes if
no item of the tail names the database. -/
theorem exists_lastNaming_cons_iff {head : CursorItem} {tail : List CursorItem} {entry : Entry}
    (hhead : ∀ other, Describes head other ↔ entry = other) {name : String} {metrics : Metrics} :
    (∃ item, LastNaming (head :: tail) name item ∧ Describes item ⟨name, metrics⟩) ↔
      (∃ item, LastNaming tail name item ∧ Describes item ⟨name, metrics⟩) ∨
        (∀ later ∈ tail, ¬Names later name) ∧ entry = ⟨name, metrics⟩ := by
  simp only [lastNaming_cons_iff, or_and_right, exists_or, and_assoc, exists_eq_left, hhead]
  refine or_congr_right ⟨?_, ?_⟩
  · rintro ⟨-, hnone, heq⟩
    exact ⟨hnone, heq⟩
  · rintro ⟨hnone, heq⟩
    exact ⟨⟨metrics, (hhead _).mpr heq⟩, hnone, heq⟩

/-- A table that was collected has, under every name, what the last item that names it describes,
and what it had before if there is none. -/
theorem get?_collect {cursor : List CursorItem} (canonical : ∀ item ∈ cursor, CanonicalItem item)
    {databases result : Table Metrics} (h : collect cursor databases = .ok result) (name : String)
    (metrics : Metrics) : result.get? name = some metrics ↔
      (∃ item, LastNaming cursor name item ∧ Describes item ⟨name, metrics⟩) ∨
        (∀ item ∈ cursor, ¬Names item name) ∧ databases.get? name = some metrics := by
  induction cursor generalizing databases with
  | nil =>
    obtain rfl := Except.ok.inj h
    simp [LastNaming]
  | cons head tail ih =>
    obtain ⟨hhead, htail⟩ := List.forall_mem_cons.mp canonical
    rw [collect] at h
    cases hitem : Entry.ofItem head with
    | error fault => simp [hitem] at h
    | ok entry =>
      obtain ⟨database, found⟩ := entry
      simp only [hitem] at h
      have hhead (other : Entry) : Describes head other ↔ ⟨database, found⟩ = other := by
        rw [← ofItem_eq_ok_iff hhead, hitem, Except.ok.injEq]
      have hnames : Names head name ↔ database = name := by
        simp [Names, hhead]
      have hinsert : (databases.insert database found).get? name =
          if name = database then some found else databases.get? name :=
        Keyed.lookup_insert ..
      rw [ih htail h, exists_lastNaming_cons_iff hhead, List.forall_mem_cons, hinsert, hnames]
      by_cases hname : database = name
      · subst hname
        simp
      · simp [hname, Ne.symm hname]

theorem exists_collect_iff {cursor : List CursorItem} {databases : Table Metrics} :
    (∃ result, collect cursor databases = .ok result) ↔
      ∀ item ∈ cursor, ∃ entry, Entry.ofItem item = .ok entry := by
  induction cursor generalizing databases with
  | nil => simp [collect]
  | cons head tail ih =>
    rw [collect, List.forall_mem_cons]
    cases Entry.ofItem head with
    | error fault => simp
    | ok entry => simp [ih]

/-- The items do not describe the same database. -/
def Apart (left right : CursorItem) : Prop := ∀ name, Names left name → ¬Names right name

/-- Of items that describe different databases, every one is the last on its own. -/
theorem lastNaming_iff_of_apart {cursor : List CursorItem} (h : cursor.Pairwise Apart)
    {name : String} {item : CursorItem} :
    LastNaming cursor name item ↔ item ∈ cursor ∧ Names item name := by
  constructor
  · intro hlast
    obtain ⟨before, after, -, hnames, -⟩ := id hlast
    exact ⟨hlast.mem, hnames⟩
  · rintro ⟨hmem, hnames⟩
    obtain ⟨before, after, rfl⟩ := List.append_of_mem hmem
    refine ⟨before, after, rfl, hnames, fun later hlater => ?_⟩
    have hapart := (List.pairwise_cons.mp (List.pairwise_append.mp h).2.1).1 later hlater
    exact hapart name hnames

/-- The order of items on different databases makes no difference. -/
theorem collect_perm {cursor other : List CursorItem}
    (canonical : ∀ item ∈ cursor, CanonicalItem item) (apart : cursor.Pairwise Apart)
    (hperm : other.Perm cursor) {databases : Table Metrics}
    (h : collect cursor .empty = .ok databases) : collect other .empty = .ok databases := by
  have hcanonical : ∀ item ∈ other, CanonicalItem item :=
    fun item hitem => canonical item (hperm.mem_iff.mp hitem)
  have hapart : other.Pairwise Apart :=
    (hperm.pairwise_iff fun {_ _} hleft name hright hname => hleft name hname hright).mpr apart
  obtain ⟨result, hresult⟩ : ∃ result, collect other .empty = .ok result := by
    have hall := exists_collect_iff.mp ⟨_, h⟩
    exact exists_collect_iff.mpr fun item hitem => hall item (hperm.mem_iff.mp hitem)
  have hlookup (name : String) : result.get? name = databases.get? name := by
    refine Option.ext fun metrics => ?_
    rw [get?_collect hcanonical hresult, get?_collect canonical h]
    simp only [lastNaming_iff_of_apart hapart, lastNaming_iff_of_apart apart, hperm.mem_iff]
  rw [hresult, Table.eq_of_get? hlookup]

/-! ## The main theorem -/

section Snapshots

variable {cursor : List CursorItem} {time : Time.Moment} {cores : Int}

theorem ofCursor_eq_ok_iff {snapshot : Snapshot} :
    Snapshot.ofCursor cursor time cores = .ok snapshot ↔
      snapshot.time = time ∧ snapshot.cores = cores ∧
        collect cursor .empty = .ok snapshot.databases := by
  rw [Snapshot.ofCursor]
  cases collect cursor .empty with
  | error fault => simp
  | ok databases =>
    simp only [Except.ok.injEq]
    constructor
    · rintro rfl
      exact ⟨rfl, rfl, rfl⟩
    · rintro ⟨rfl, rfl, rfl⟩
      rfl

theorem ofCursor_eq_error {fault : DecodeFault} :
    Snapshot.ofCursor cursor time cores = .error fault ↔ collect cursor .empty = .error fault := by
  rw [Snapshot.ofCursor]
  cases collect cursor .empty with
  | error other => simp
  | ok databases => simp

/-- There is a snapshot exactly if every item describes a database. -/
theorem exists_ofCursor_iff (canonical : ∀ item ∈ cursor, CanonicalItem item) :
    (∃ snapshot, Snapshot.ofCursor cursor time cores = .ok snapshot) ↔
      ∀ item ∈ cursor, ∃ entry, Describes item entry := by
  have hsome : (∃ snapshot, Snapshot.ofCursor cursor time cores = .ok snapshot) ↔
      ∃ databases, collect cursor .empty = .ok databases := by
    constructor
    · rintro ⟨snapshot, h⟩
      exact ⟨_, (ofCursor_eq_ok_iff.mp h).2.2⟩
    · rintro ⟨databases, h⟩
      exact ⟨⟨time, cores, databases⟩, ofCursor_eq_ok_iff.mpr ⟨rfl, rfl, h⟩⟩
  rw [hsome, exists_collect_iff]
  exact forall₂_congr fun item hitem =>
    exists_congr fun _ => ofItem_eq_ok_iff (canonical item hitem)

/-- A database has in the snapshot what the last item on it describes. -/
theorem get?_ofCursor (canonical : ∀ item ∈ cursor, CanonicalItem item) {snapshot : Snapshot}
    (h : Snapshot.ofCursor cursor time cores = .ok snapshot) (name : String) (metrics : Metrics) :
    snapshot.databases.get? name = some metrics ↔
      ∃ item, LastNaming cursor name item ∧ Describes item ⟨name, metrics⟩ := by
  rw [get?_collect canonical (ofCursor_eq_ok_iff.mp h).2.2]
  exact or_iff_left fun hempty => nomatch hempty.2

/-- The snapshot has exactly the databases that are described. -/
theorem mem_keys_ofCursor_iff (canonical : ∀ item ∈ cursor, CanonicalItem item)
    {snapshot : Snapshot} (h : Snapshot.ofCursor cursor time cores = .ok snapshot)
    (name : String) : name ∈ snapshot.databases.keys ↔ ∃ item ∈ cursor, Names item name := by
  rw [Table.mem_keys_iff]
  constructor
  · rintro ⟨metrics, hmetrics⟩
    obtain ⟨item, hlast, hdescribes⟩ := (get?_ofCursor canonical h name metrics).mp hmetrics
    exact ⟨item, hlast.mem, metrics, hdescribes⟩
  · intro hnamed
    obtain ⟨item, hlast⟩ := exists_lastNaming hnamed
    obtain ⟨_, _, -, ⟨metrics, hdescribes⟩, -⟩ := id hlast
    exact ⟨metrics, (get?_ofCursor canonical h name metrics).mpr ⟨item, hlast, hdescribes⟩⟩

/-- A fault is that of the first faulty item. -/
theorem ofCursor_eq_error_iff (canonical : ∀ item ∈ cursor, CanonicalItem item)
    {fault : DecodeFault} : Snapshot.ofCursor cursor time cores = .error fault ↔
      ∃ before item after, cursor = before ++ item :: after ∧
        (∀ earlier ∈ before, ∃ entry, Describes earlier entry) ∧ Faulty item fault := by
  rw [ofCursor_eq_error, collect_eq_error_iff]
  refine exists_congr fun before => exists_congr fun item => exists_congr fun after =>
    and_congr_right fun heq => ?_
  subst heq
  obtain ⟨hbefore, hrest⟩ := List.forall_mem_append.mp canonical
  have hitem : CanonicalItem item := hrest item List.mem_cons_self
  refine and_congr (forall₂_congr fun earlier hearlier => ?_) (ofItem_eq_error_iff hitem)
  exact exists_congr fun _ => ofItem_eq_ok_iff (hbefore earlier hearlier)

end Snapshots

/-- What comes of a cursor, for every cursor: a snapshot of all of it, or the fault of its first
faulty item. -/
structure CursorOutcomes (cursor : List CursorItem) (time : Time.Moment) (cores : Int) : Prop where
  /-- There is a snapshot exactly if every item describes a database. -/
  accepted : (∃ snapshot, Snapshot.ofCursor cursor time cores = .ok snapshot) ↔
    ∀ item ∈ cursor, ∃ entry, Describes item entry
  /-- The snapshot has the databases that are described, each once, as the last item on it
  describes it. -/
  described : ∀ snapshot, Snapshot.ofCursor cursor time cores = .ok snapshot →
    snapshot.time = time ∧ snapshot.cores = cores ∧ snapshot.databases.keys.Nodup ∧
      (∀ name, name ∈ snapshot.databases.keys ↔ ∃ item ∈ cursor, Names item name) ∧
      ∀ name metrics, snapshot.databases.get? name = some metrics ↔
        ∃ item, LastNaming cursor name item ∧ Describes item ⟨name, metrics⟩
  /-- If no two items describe the same database then their order makes no difference. -/
  reordered : cursor.Pairwise Apart → ∀ other : List CursorItem, other.Perm cursor →
    ∀ snapshot, Snapshot.ofCursor cursor time cores = .ok snapshot →
      Snapshot.ofCursor other time cores = .ok snapshot
  /-- Otherwise there is the fault of the first faulty item. -/
  refused : ∀ fault, Snapshot.ofCursor cursor time cores = .error fault ↔
    ∃ before item after, cursor = before ++ item :: after ∧
      (∀ earlier ∈ before, ∃ entry, Describes earlier entry) ∧ Faulty item fault
  /-- What follows a faulty item has no influence. -/
  halted : ∀ before item after, cursor = before ++ item :: after → (∃ fault, Faulty item fault) →
    ∀ rest, Snapshot.ofCursor (before ++ item :: rest) time cores =
      Snapshot.ofCursor cursor time cores

/-- Every cursor is read to its end or to its first faulty item, and it is told what comes of it. -/
theorem cursorOutcomes {cursor : List CursorItem} (canonical : ∀ item ∈ cursor, CanonicalItem item)
    (time : Time.Moment) (cores : Int) : CursorOutcomes cursor time cores := by
  refine ⟨exists_ofCursor_iff canonical, ?_, ?_, fun _ => ofCursor_eq_error_iff canonical, ?_⟩
  · intro snapshot h
    obtain ⟨htime, hcores, -⟩ := ofCursor_eq_ok_iff.mp h
    exact ⟨htime, hcores, snapshot.databases.nodup_keys, mem_keys_ofCursor_iff canonical h,
      get?_ofCursor canonical h⟩
  · intro apart other hperm snapshot h
    obtain ⟨htime, hcores, hcollect⟩ := ofCursor_eq_ok_iff.mp h
    exact ofCursor_eq_ok_iff.mpr ⟨htime, hcores, collect_perm canonical apart hperm hcollect⟩
  · rintro before item after rfl ⟨fault, hfaulty⟩ rest
    have hcanonical := canonical item (List.mem_append_right _ List.mem_cons_self)
    have hitem : Entry.ofItem item = .error fault := (ofItem_eq_error_iff hcanonical).mpr hfaulty
    rw [Snapshot.ofCursor, Snapshot.ofCursor, collect_append_of_error hitem,
      collect_append_of_error hitem before after]

/-- A document with a name and a counter of processor time. -/
def timedItem (name : Value) (nanos : Int) : CursorItem :=
  .ok (.object [("cpuNanos", .ofInt nanos), ("db", name)])

theorem canonical_timedItem (name : Value) (hname : name.Canonical) {nanos : Int}
    (hnanos : FitsInt64 nanos) : CanonicalItem (timedItem name nanos) := by
  rintro document ⟨⟩
  have hkeys : "cpuNanos" < "db" := by decide
  have hcounter : (Value.ofInt nanos).Canonical := (Value.writable_ofInt 0 hnanos).canonical
  exact Value.canonical_pair hkeys hcounter hname

/-- A cursor with two documents on one database. -/
def repeatedCursor : List CursorItem :=
  [timedItem (.string "orders") 5, timedItem (.string "stock") 3, timedItem (.string "orders") 9]

/-- A cursor with a name that is null before an item that could not be read. -/
def nullCursor : List CursorItem :=
  [timedItem (.string "orders") 5, timedItem .null 3, .error (.plain "cut")]

/-- Of two documents on a database the last one counts, and a name that is null is malformed. -/
theorem repeatedCursor_outcomes :
    ((∀ item ∈ repeatedCursor, CanonicalItem item) ∧ CursorOutcomes repeatedCursor ⟨0, 0⟩ 4 ∧
      (Snapshot.ofCursor repeatedCursor ⟨0, 0⟩ 4).map (·.databases.entries) =
        .ok [("orders", { processorTime := 9 }), ("stock", { processorTime := 3 })]) ∧
    ((∀ item ∈ nullCursor, CanonicalItem item) ∧ CursorOutcomes nullCursor ⟨0, 0⟩ 4 ∧
      Snapshot.ofCursor nullCursor ⟨0, 0⟩ 4 = .error (.malformed (.wrongType .null .text))) := by
  have horders {nanos : Int} (h : FitsInt64 nanos) :
      CanonicalItem (timedItem (.string "orders") nanos) :=
    canonical_timedItem (.string "orders") trivial h
  have hrepeated : ∀ item ∈ repeatedCursor, CanonicalItem item := by
    simp only [repeatedCursor, List.forall_mem_cons]
    exact ⟨horders (by decide), canonical_timedItem (.string "stock") trivial (by decide),
      horders (by decide), nofun⟩
  have hnull : ∀ item ∈ nullCursor, CanonicalItem item := by
    simp only [nullCursor, List.forall_mem_cons]
    exact ⟨horders (by decide), canonical_timedItem .null trivial (by decide), nofun, nofun⟩
  exact ⟨⟨hrepeated, cursorOutcomes hrepeated _ _, rfl⟩, ⟨hnull, cursorOutcomes hnull _ _, rfl⟩⟩

end LoadWatch.OperationMetrics
