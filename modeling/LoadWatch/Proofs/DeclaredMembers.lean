/-
  Proofs/DeclaredMembers.lean --- what a stat line cannot see of a reply.

  WHAT THIS FILE IS FOR.  A sample keeps the whole reply of its server next to
  the status that was decoded from it, and most of a reply is declared nowhere.
  Here two pairs of replies are compared that agree in what is declared
  (`declaredPart`): the members of the status, of all its sections and of every
  entry of the locks.  Whatever else they have, they decode alike, and there is
  no option with which the stat lines differ, except for asking for a path.

  What is declared is what is left of a document when all other members are
  taken out (`Value.keep`).  For objects this means that every declared member
  is either missing from both or there in both and the same as far as it is
  declared (`keep_object_eq_iff`).  A decoder does not notice that anything was
  taken out (`Overlooks`); this is shown once for records, optional sections and
  tables, and then section by section.

  Main result: `undeclared_unseen`.
-/
import LoadWatch.Proofs.Records
import LoadWatch.Proofs.ShownColumns

set_option autoImplicit false

namespace LoadWatch

namespace Json

/-! ## Taking members out -/

/-- The members of an object that are among the parts, each one changed in its own way. -/
def keepMembers (parts : List (String × (Value → Value))) (members : List (String × Value)) :
    List (String × Value) :=
  members.filterMap fun member =>
    (Keyed.lookup member.1 parts).map fun change => (member.1, change member.2)

/-- The elements of an array, each one changed as its position says. -/
def keepItems : List (String × (Value → Value)) → List Value → List Value
  | part :: parts, item :: items => part.2 item :: keepItems parts items
  | _, items => items

/-- A document of a record without the members that are not among its parts. -/
def Value.keep (parts : List (String × (Value → Value))) : Value → Value
  | .object members => .object (keepMembers parts members)
  | .array items => .array (keepItems parts items)
  | value => value

section Members

variable {parts : List (String × (Value → Value))}

theorem keepMembers_cons_of_none {member : String × Value}
    (h : Keyed.lookup member.1 parts = none) (members : List (String × Value)) :
    keepMembers parts (member :: members) = keepMembers parts members := by
  rw [keepMembers, List.filterMap_cons, h]
  rfl

theorem keepMembers_cons_of_some {member : String × Value} {change : Value → Value}
    (h : Keyed.lookup member.1 parts = some change) (members : List (String × Value)) :
    keepMembers parts (member :: members) =
      (member.1, change member.2) :: keepMembers parts members := by
  rw [keepMembers, List.filterMap_cons, h]
  rfl

/-- Under the key of a part there is the changed value, and under no other key there is any. -/
theorem lookup_keepMembers (key : String) (members : List (String × Value)) :
    Keyed.lookup key (keepMembers parts members) =
      (Keyed.lookup key parts).bind fun change => (Keyed.lookup key members).map change := by
  induction members with
  | nil => cases Keyed.lookup key parts <;> rfl
  | cons member members ih =>
    by_cases hkey : key = member.1
    · subst hkey
      cases hpart : Keyed.lookup member.1 parts with
      | none =>
        rw [keepMembers_cons_of_none hpart, ih, hpart]
        rfl
      | some change =>
        rw [keepMembers_cons_of_some hpart, Keyed.lookup, Keyed.lookup, if_pos rfl, if_pos rfl]
        rfl
    · rw [Keyed.lookup, if_neg hkey, ← ih]
      cases hpart : Keyed.lookup member.1 parts with
      | none => rw [keepMembers_cons_of_none hpart]
      | some change => rw [keepMembers_cons_of_some hpart, Keyed.lookup, if_neg hkey]

theorem ascending_keepMembers {members : List (String × Value)} (h : Keyed.Ascending members) :
    Keyed.Ascending (keepMembers parts members) := by
  refine List.Pairwise.filterMap _ (fun left right hlt kept hkept other hother => ?_) h
  obtain ⟨_, -, rfl⟩ := Option.map_eq_some_iff.mp hkept
  obtain ⟨_, -, rfl⟩ := Option.map_eq_some_iff.mp hother
  exact hlt

/-- Objects agree in their parts exactly if every part is missing from both of them, or there in
both and after its change the same. -/
theorem keep_object_eq_iff {left right : List (String × Value)} (hleft : Keyed.Ascending left)
    (hright : Keyed.Ascending right) :
    (Value.object left).keep parts = (Value.object right).keep parts ↔
      ∀ key change, Keyed.lookup key parts = some change →
        (Keyed.lookup key left).map change = (Keyed.lookup key right).map change := by
  rw [Value.keep, Value.keep, Value.object.injEq]
  constructor
  · intro h key change hchange
    have hkey := congrArg (Keyed.lookup key) h
    rwa [lookup_keepMembers, lookup_keepMembers, hchange] at hkey
  · intro h
    refine Keyed.eq_of_lookup (ascending_keepMembers hleft) (ascending_keepMembers hright)
      fun key => ?_
    rw [lookup_keepMembers, lookup_keepMembers]
    cases hchange : Keyed.lookup key parts with
    | none => rfl
    | some change => exact h key change hchange

end Members

/-! ## Decoders that do not notice -/

/-- The decoder gives the same result before and after the change. -/
def Overlooks {α : Type} (decode : Decoder α) (change : Value → Value) : Prop :=
  ∀ value, decode (change value) = decode value

theorem overlooks_id {α : Type} (decode : Decoder α) : Overlooks decode id := fun _ => rfl

/-- The declared member has the name of the part, and what is stored is the same before and after
its change. -/
structure RecordField.OverlooksPart {σ : Type} (field : RecordField σ)
    (part : String × (Value → Value)) : Prop where
  name_eq : field.name = part.1
  decodeInto_eq : ∀ value record,
    field.decodeInto (part.2 value) record = field.decodeInto value record

theorem Overlooks.field {σ α : Type} {decode : Decoder α} {change : Value → Value}
    (h : Overlooks decode change) (name : String) (store : α → σ → σ) :
    (RecordField.of name decode store).OverlooksPart (name, change) where
  name_eq := rfl
  decodeInto_eq value record := by simp only [RecordField.of, h value]

section Records

variable {σ : Type} {schema : Schema σ} {fields : List (RecordField σ)}
  {parts : List (String × (Value → Value))}

/-- Under every key there is a declared member together with its part, or neither of them. -/
theorem find_overlooksPart (h : List.Forall₂ RecordField.OverlooksPart fields parts) (key : String) :
    Option.Rel (fun field change => field.OverlooksPart (key, change))
      (fields.find? fun field => field.name = key) (Keyed.lookup key parts) := by
  induction h with
  | nil => exact .none
  | @cons field part fields parts hfield _ ih =>
    rw [List.find?_cons, Keyed.lookup]
    by_cases hkey : key = part.1
    · have hname : field.name = key := hfield.name_eq.trans hkey.symm
      rw [if_pos hkey, decide_eq_true hname]
      exact .some (hkey ▸ hfield)
    · have hname : field.name ≠ key := fun heq => hkey (heq.symm.trans hfield.name_eq)
      rw [if_neg hkey, decide_eq_false hname]
      exact ih

theorem decodeMembers_keepMembers
    (h : List.Forall₂ RecordField.OverlooksPart schema.fields parts)
    (members : List (String × Value)) (record : σ) :
    schema.decodeMembers (keepMembers parts members) record =
      schema.decodeMembers members record := by
  -- Each member is visited by both sides or by neither, and leaves the same record behind.
  induction members generalizing record with
  | nil => rfl
  | cons member members ih =>
    have hfind := find_overlooksPart h member.1
    generalize hfield : (schema.fields.find? fun field => field.name = member.1) = field? at hfind
    generalize hpart : Keyed.lookup member.1 parts = change? at hfind
    cases hfind with
    | none =>
      rw [keepMembers_cons_of_none hpart, ih, Schema.decodeMembers, Schema.field?, hfield]
    | some hdecode =>
      rw [keepMembers_cons_of_some hpart, Schema.decodeMembers, Schema.decodeMembers,
        Schema.field?, hfield]
      simp only [hdecode.decodeInto_eq, ih]

theorem length_keepItems (parts : List (String × (Value → Value))) (items : List Value) :
    (keepItems parts items).length = items.length := by
  induction parts generalizing items with
  | nil => rfl
  | cons part parts ih =>
    cases items with
    | nil => rfl
    | cons item items => rw [keepItems, List.length_cons, List.length_cons, ih]

theorem decodePositions_keepItems (count : Nat) (h : List.Forall₂ RecordField.OverlooksPart fields parts)
    (items : List Value) (record : σ) :
    Schema.decodePositions count fields (keepItems parts items) record =
      Schema.decodePositions count fields items record := by
  induction h generalizing items record with
  | nil => rfl
  | cons hfield _ ih =>
    cases items with
    | nil => rfl
    | cons item items =>
      simp only [keepItems, Schema.decodePositions, hfield.decodeInto_eq, ih]

/-- A record has no members but the declared ones. -/
theorem overlooks_keep (h : List.Forall₂ RecordField.OverlooksPart schema.fields parts) :
    Overlooks schema.decode (Value.keep parts) := by
  intro value
  cases value with
  | object members => exact decodeMembers_keepMembers h members schema.initial
  | array items =>
    rw [Value.keep, Schema.decode, Schema.decode, length_keepItems]
    exact decodePositions_keepItems items.length h items schema.initial
  | null | bool | number | string => rfl

end Records

/-- The change neither makes a document null nor changes that it is. -/
def KeepsNull (change : Value → Value) : Prop := ∀ value, change value = .null ↔ value = .null

theorem keepsNull_keep (parts : List (String × (Value → Value))) : KeepsNull (Value.keep parts) := by
  intro value
  cases value <;> simp [Value.keep]

theorem keepsNull_mapMembers (change : Value → Value) : KeepsNull (Value.mapMembers change) := by
  intro value
  cases value <;> simp [Value.mapMembers]

theorem Overlooks.optional {α : Type} {decode : Decoder α} {change : Value → Value}
    (h : Overlooks decode change) (hnull : KeepsNull change) :
    Overlooks (decodeOptional decode) change := by
  intro value
  by_cases hvalue : value = .null
  · rw [(hnull value).mpr hvalue, hvalue]
  · rw [decodeOptional_of_ne_null decode hvalue,
      decodeOptional_of_ne_null decode (mt (hnull value).mp hvalue), h value]

theorem Overlooks.table {α : Type} {decode : Decoder α} {change : Value → Value}
    (h : Overlooks decode change) : Overlooks (decodeTable decode) (Value.mapMembers change) :=
  decodeTable_mapMembers h

end Json

namespace ServerStatus

open Json

/-! ## The declared part of a reply -/

/-- The declared members of a section none of which has members of its own. -/
def flatPart {σ : Type} (schema : Schema σ) : Value → Value :=
  .keep (schema.fields.map fun field => (field.name, id))

/-- The declared part of the lock statistics of a database. -/
def lockPart : Value → Value :=
  .keep [
    ("acquireCount", flatPart LockUsage.modeAmountsSchema),
    ("acquireWaitCount", flatPart LockUsage.modeAmountsSchema),
    ("timeLockedMicros", flatPart LockUsage.modeAmountsSchema),
    ("timeAcquiringMicros", flatPart LockUsage.modeAmountsSchema)]

def wiredTigerPart : Value → Value :=
  .keep [
    ("cache", flatPart cacheSchema),
    ("transaction", flatPart transactionsSchema),
    ("concurrentTransactions",
      .keep [("read", flatPart ticketsSchema), ("write", flatPart ticketsSchema)])]

def metricsPart : Value → Value :=
  .keep [
    ("document", flatPart documentMetricsSchema),
    ("operation", flatPart operationCountsSchema),
    ("queryExecutor", flatPart queryExecutorSchema),
    ("record", flatPart recordCountsSchema),
    ("getLastError", .keep [("wtime", flatPart waitTimesSchema), ("wtimeouts", id)])]

def latenciesPart : Value → Value :=
  .keep [
    ("reads", flatPart latencySchema),
    ("writes", flatPart latencySchema),
    ("commands", flatPart latencySchema)]

def globalLockPart : Value → Value :=
  .keep [
    ("totalTime", id),
    ("lockTime", id),
    ("currentQueue", flatPart clientsSchema),
    ("activeClients", flatPart clientsSchema)]

/-- The reply with its declared members only: those of the status, of all its sections, and of every
entry of the locks. -/
def declaredPart : Value → Value :=
  .keep [
    ("host", id),
    ("version", id),
    ("process", id),
    ("uptimeMillis", id),
    ("shardCursorType", id),
    ("storageEngine", flatPart storageEngineSchema),
    ("opcounters", flatPart opcountersSchema),
    ("opcountersRepl", flatPart opcountersSchema),
    ("wiredTiger", wiredTigerPart),
    ("backgroundFlushing", flatPart flushingSchema),
    ("mem", flatPart memorySchema),
    ("extra_info", flatPart extraInfoSchema),
    ("metrics", metricsPart),
    ("opLatencies", latenciesPart),
    ("globalLock", globalLockPart),
    ("locks", .mapMembers lockPart),
    ("network", flatPart networkSchema),
    ("connections", flatPart connectionsSchema),
    ("repl", flatPart replicationSchema)]

section Sections

variable {σ τ α : Type}

theorem overlooks_flatPart (schema : Schema σ) : Overlooks schema.decode (flatPart schema) := by
  refine overlooks_keep ?_
  rw [List.forall₂_map_right_iff, List.forall₂_same]
  exact fun field _ => ⟨rfl, fun _ _ => rfl⟩

/-- A member of which nothing is taken out. -/
theorem overlooks_whole (name : String) (decode : Decoder α) (store : α → σ → σ) :
    (RecordField.of name decode store).OverlooksPart (name, id) :=
  (overlooks_id decode).field name store

theorem overlooks_flat (name : String) (schema : Schema τ) (store : τ → σ → σ) :
    (nested name schema store).OverlooksPart (name, flatPart schema) :=
  (overlooks_flatPart schema).field name store

theorem overlooks_optionalFlat (name : String) (schema : Schema τ) (store : Option τ → σ → σ) :
    (optionalSection name schema store).OverlooksPart (name, flatPart schema) :=
  ((overlooks_flatPart schema).optional (keepsNull_keep _)).field name store

/-- An optional section is overlooked as its record is. -/
theorem overlooks_optional {parts : List (String × (Value → Value))} {schema : Schema τ}
    (h : Overlooks schema.decode (.keep parts)) (name : String) (store : Option τ → σ → σ) :
    (optionalSection name schema store).OverlooksPart (name, .keep parts) :=
  (h.optional (keepsNull_keep parts)).field name store

end Sections

theorem overlooks_lockPart : Overlooks LockUsage.statisticsSchema.decode lockPart := by
  refine overlooks_keep ?_
  simp only [LockUsage.statisticsSchema, List.forall₂_cons, List.forall₂_nil_left_iff, and_true]
  exact ⟨overlooks_optionalFlat _ _ _, overlooks_optionalFlat _ _ _, overlooks_flat _ _ _,
    overlooks_flat _ _ _⟩

theorem overlooks_wiredTigerPart : Overlooks wiredTigerSchema.decode wiredTigerPart := by
  have hconcurrent : Overlooks concurrentTransactionsSchema.decode
      (.keep [("read", flatPart ticketsSchema), ("write", flatPart ticketsSchema)]) := by
    refine overlooks_keep ?_
    simp only [concurrentTransactionsSchema, List.forall₂_cons, List.forall₂_nil_left_iff, and_true]
    exact ⟨overlooks_flat _ _ _, overlooks_flat _ _ _⟩
  refine overlooks_keep ?_
  simp only [wiredTigerSchema, List.forall₂_cons, List.forall₂_nil_left_iff, and_true]
  exact ⟨overlooks_flat _ _ _, overlooks_flat _ _ _, hconcurrent.field _ _⟩

theorem overlooks_metricsPart : Overlooks metricsSchema.decode metricsPart := by
  have herrors : Overlooks getLastErrorSchema.decode
      (.keep [("wtime", flatPart waitTimesSchema), ("wtimeouts", id)]) := by
    refine overlooks_keep ?_
    simp only [getLastErrorSchema, List.forall₂_cons, List.forall₂_nil_left_iff, and_true]
    exact ⟨overlooks_flat _ _ _, overlooks_whole _ _ _⟩
  refine overlooks_keep ?_
  simp only [metricsSchema, List.forall₂_cons, List.forall₂_nil_left_iff, and_true]
  exact ⟨overlooks_flat _ _ _, overlooks_flat _ _ _, overlooks_flat _ _ _, overlooks_flat _ _ _,
    herrors.field _ _⟩

theorem overlooks_latenciesPart : Overlooks latenciesSchema.decode latenciesPart := by
  refine overlooks_keep ?_
  simp only [latenciesSchema, List.forall₂_cons, List.forall₂_nil_left_iff, and_true]
  exact ⟨overlooks_flat _ _ _, overlooks_flat _ _ _, overlooks_flat _ _ _⟩

theorem overlooks_globalLockPart : Overlooks globalLockSchema.decode globalLockPart := by
  refine overlooks_keep ?_
  simp only [globalLockSchema, List.forall₂_cons, List.forall₂_nil_left_iff, and_true]
  exact ⟨overlooks_whole _ _ _, overlooks_whole _ _ _, overlooks_optionalFlat _ _ _,
    overlooks_optionalFlat _ _ _⟩

/-- A status is decoded from the declared part of its reply. -/
theorem overlooks_declaredPart : Overlooks statusSchema.decode declaredPart := by
  have hlocks : Overlooks (decodeOptional (decodeTable LockUsage.statisticsSchema.decode))
      (.mapMembers lockPart) := overlooks_lockPart.table.optional (keepsNull_mapMembers lockPart)
  refine overlooks_keep ?_
  simp only [statusSchema, List.forall₂_cons, List.forall₂_nil_left_iff, and_true]
  exact ⟨overlooks_whole _ _ _, overlooks_whole _ _ _, overlooks_whole _ _ _,
    overlooks_whole _ _ _, overlooks_whole _ _ _, overlooks_optionalFlat _ _ _,
    overlooks_optionalFlat _ _ _, overlooks_optionalFlat _ _ _,
    overlooks_optional overlooks_wiredTigerPart _ _, overlooks_optionalFlat _ _ _,
    overlooks_optionalFlat _ _ _, overlooks_optionalFlat _ _ _,
    overlooks_optional overlooks_metricsPart _ _, overlooks_optional overlooks_latenciesPart _ _,
    overlooks_optional overlooks_globalLockPart _ _, hlocks.field _ _, overlooks_flat _ _ _,
    overlooks_flat _ _ _, overlooks_optionalFlat _ _ _⟩

/-! ## Samples that differ in their replies only -/

/-- The samples have the same moment, number of cores and status. -/
structure Sample.Alike (left right : Sample) : Prop where
  time_eq : left.time = right.time
  cores_eq : left.cores = right.cores
  status_eq : left.status = right.status

/-- Both samples decode and are alike, or neither does and the reasons are the same. -/
inductive DecodeAlike : Except DecodeFault Sample → Except DecodeFault Sample → Prop
  | decoded {left right : Sample} (alike : left.Alike right) : DecodeAlike (.ok left) (.ok right)
  | failed (fault : DecodeFault) : DecodeAlike (.error fault) (.error fault)

theorem decodeAlike_ofReply {left right : Value} (h : declaredPart left = declaredPart right)
    (time : Time.Moment) (cores : Int) :
    DecodeAlike (Sample.ofReply left time cores) (Sample.ofReply right time cores) := by
  have hdecode : statusSchema.decode left = statusSchema.decode right := by
    rw [← overlooks_declaredPart left, h, overlooks_declaredPart right]
  rw [Sample.ofReply, Sample.ofReply, hdecode]
  cases statusSchema.decode right with
  | ok status => exact .decoded ⟨rfl, rfl, rfl⟩
  | error mismatch => exact .failed (.malformed mismatch)

theorem DecodeAlike.alike {left right : Except DecodeFault Sample} (h : DecodeAlike left right)
    {current other : Sample} (hleft : left = .ok current) (hright : right = .ok other) :
    current.Alike other := by
  cases h with
  | decoded alike =>
    obtain rfl := Except.ok.inj hleft
    obtain rfl := Except.ok.inj hright
    exact alike
  | failed fault => cases hleft

/-- No column of the registry reads the replies. -/
theorem read_withReplies (settings : CellSettings) (current previous : Sample) (reply old : Value) :
    ∀ column ∈ columns,
      column.read settings { current with reply := reply } { previous with reply := old } =
        column.read settings current previous := by
  -- One case for each column, since nothing but its own definition says what a column reads.
  simp only [columns, List.forall_mem_cons, List.not_mem_nil, false_imp_iff, implies_true, and_true,
    true_and]
  and_intros <;> rfl

theorem Sample.Alike.exists_reply {left right : Sample} (h : left.Alike right) :
    ∃ reply, right = { left with reply := reply } := by
  obtain ⟨time, cores, status, reply⟩ := right
  obtain ⟨rfl, rfl, rfl⟩ := h
  exact ⟨reply, rfl⟩

/-! ## Stat lines -/

theorem readAll_congr {settings : CellSettings} {current previous other former : Sample}
    {selected : List Selection} (h : ∀ selection ∈ selected,
      selection.read settings current previous = selection.read settings other former) :
    readAll settings current previous selected = readAll settings other former selected := by
  induction selected with
  | nil => rfl
  | cons selection rest ih =>
    obtain ⟨hselection, hrest⟩ := List.forall_mem_cons.mp h
    rw [readAll, readAll, hselection, ih hrest]

/-- What is selected is a column of the registry, or else a path that was asked for. -/
theorem selection_cases {status : Status} {options : RenderOptions} {selection : Selection}
    (h : selection ∈ selections status options) :
    (∃ column ∈ columns, selection = .registered column) ∨
      ∃ paths path, options.fields = some paths ∧ path ∈ paths ∧
        path ∉ columns.map Column.key ∧ selection = .field path := by
  cases hfields : options.fields with
  | none =>
    rw [selections, hfields] at h
    obtain ⟨column, hcolumn, rfl⟩ := List.mem_map.mp h
    exact .inl ⟨column, List.mem_of_mem_filter hcolumn, rfl⟩
  | some keys =>
    rw [selections_of_requested hfields] at h
    obtain ⟨key, hkey, rfl⟩ := List.mem_map.mp h
    generalize hselection : Selection.ofKey key = selection
    have hstands := hselection ▸ standsFor_ofKey key
    cases hstands with
    | @registered column listed => exact .inl ⟨column, listed, rfl⟩
    | field unlisted => exact .inr ⟨keys, key, rfl, hkey, unlisted, rfl⟩

/-- What two stat lines show is the same, paths apart. -/
structure LinesAlike (left right : StatLine) (options : RenderOptions) : Prop where
  capabilities : Capabilities.of left.current.status options =
    Capabilities.of right.current.status options
  /-- The same columns are shown, whether they are asked for or suit the server. -/
  selected : selections left.current.status options = selections right.current.status options
  /-- Every column of the registry has the same cell, shown or not. -/
  registered : ∀ column ∈ columns,
    column.read (left.settings options) left.current left.previous =
      column.read (right.settings options) right.current right.previous
  /-- If no columns are asked for, then the lines are the same. -/
  unrequested : options.fields = none → left.cells options = right.cells options ∧
    left.json options = right.json options ∧ left.grid options = right.grid options
  /-- If the lines are not the same, then a path was asked for that tells them apart. -/
  pathsOnly : left.cells options ≠ right.cells options ∨ left.json options ≠ right.json options ∨
    left.grid options ≠ right.grid options →
      ∃ paths path, options.fields = some paths ∧ path ∈ paths ∧ path ∉ columns.map Column.key ∧
        pathCell path left.current left.previous ≠ pathCell path right.current right.previous

section Lines

variable {left right : StatLine} {options : RenderOptions}

/-- Lines of one server with the same cells look the same. -/
theorem lines_eq_of_cells_eq (hhost : left.current.status.host = right.current.status.host)
    (hcells : left.cells options = right.cells options) :
    left.json options = right.json options ∧ left.grid options = right.grid options := by
  rw [StatLine.json, StatLine.json, StatLine.grid, StatLine.grid, hhost, hcells]
  exact ⟨rfl, rfl⟩

/-- Cells are only different because of a path. -/
theorem exists_path_of_cells_ne
    (selected : selections left.current.status options = selections right.current.status options)
    (settings : left.settings options = right.settings options)
    (registered : ∀ column ∈ columns,
      column.read (left.settings options) left.current left.previous =
        column.read (right.settings options) right.current right.previous)
    (hne : left.cells options ≠ right.cells options) :
    ∃ paths path, options.fields = some paths ∧ path ∈ paths ∧ path ∉ columns.map Column.key ∧
      pathCell path left.current left.previous ≠ pathCell path right.current right.previous := by
  by_contra hnone
  refine hne ?_
  -- The selected columns are the same, and each of them has the same cell on both sides.
  rw [StatLine.cells, StatLine.cells, selected, settings]
  refine readAll_congr fun selection hselection => ?_
  rcases selection_cases hselection with
    ⟨column, hcolumn, rfl⟩ | ⟨paths, path, hfields, hpath, hunlisted, rfl⟩
  · have hread := registered column hcolumn
    rwa [settings] at hread
  · by_contra hread
    exact hnone ⟨paths, path, hfields, hpath, hunlisted, fun h => hread (congrArg Except.ok h)⟩

theorem linesAlike (hcurrent : left.current.Alike right.current)
    (hprevious : left.previous.Alike right.previous) (options : RenderOptions) :
    LinesAlike left right options := by
  have selected : selections left.current.status options =
      selections right.current.status options := by rw [hcurrent.status_eq]
  have settings : left.settings options = right.settings options := by
    rw [StatLine.settings, StatLine.settings, hcurrent.cores_eq]
  have registered : ∀ column ∈ columns,
      column.read (left.settings options) left.current left.previous =
        column.read (right.settings options) right.current right.previous := by
    obtain ⟨reply, hreply⟩ := hcurrent.exists_reply
    obtain ⟨old, hold⟩ := hprevious.exists_reply
    intro column hcolumn
    rw [← settings, hreply, hold]
    exact (read_withReplies _ left.current left.previous reply old column hcolumn).symm
  have hlines (hcells : left.cells options = right.cells options) :
      left.json options = right.json options ∧ left.grid options = right.grid options :=
    lines_eq_of_cells_eq (by rw [hcurrent.status_eq]) hcells
  have hpath := exists_path_of_cells_ne selected settings registered
  refine ⟨by rw [hcurrent.status_eq], selected, registered, ?_, ?_⟩
  · intro hfields
    have hcells : left.cells options = right.cells options := by
      by_contra hne
      obtain ⟨paths, path, hpaths, -⟩ := hpath hne
      rw [hfields] at hpaths
      cases hpaths
    exact ⟨hcells, hlines hcells⟩
  · intro hne
    refine hpath fun hcells => ?_
    obtain ⟨hjson, hgrid⟩ := hlines hcells
    rcases hne with h | h | h
    · exact h hcells
    · exact h hjson
    · exact h hgrid

end Lines

/-! ## The main theorem -/

/-- The replies that a stat line is made from. -/
structure Replies where
  current : Value
  previous : Value

/-- What else it is made from: for each reply its moment and the number of cores of the server. -/
structure Circumstances where
  currentTime : Time.Moment
  currentCores : Int
  previousTime : Time.Moment
  previousCores : Int

/-- The replies differ in nothing that is declared. -/
structure Replies.Agree (left right : Replies) : Prop where
  current : declaredPart left.current = declaredPart right.current
  previous : declaredPart left.previous = declaredPart right.previous

/-- The replies decode to the samples of the line. -/
structure Replies.Make (replies : Replies) (circumstances : Circumstances) (line : StatLine) :
    Prop where
  current : Sample.ofReply replies.current circumstances.currentTime circumstances.currentCores =
    .ok line.current
  previous : Sample.ofReply replies.previous circumstances.previousTime
    circumstances.previousCores = .ok line.previous

/-- The replies decode alike, and their stat lines are alike for all options. -/
structure Undistinguished (left right : Replies) (circumstances : Circumstances) : Prop where
  current : DecodeAlike
    (Sample.ofReply left.current circumstances.currentTime circumstances.currentCores)
    (Sample.ofReply right.current circumstances.currentTime circumstances.currentCores)
  previous : DecodeAlike
    (Sample.ofReply left.previous circumstances.previousTime circumstances.previousCores)
    (Sample.ofReply right.previous circumstances.previousTime circumstances.previousCores)
  lines : ∀ line other, left.Make circumstances line → right.Make circumstances other →
    ∀ options, LinesAlike line other options

/-- Replies that agree in what is declared can only be told apart by a path. -/
theorem undeclared_unseen {left right : Replies} (agree : left.Agree right)
    (circumstances : Circumstances) : Undistinguished left right circumstances where
  current := decodeAlike_ofReply agree.current _ _
  previous := decodeAlike_ofReply agree.previous _ _
  lines _ _ hline hother := linesAlike
    ((decodeAlike_ofReply agree.current _ _).alike hline.current hother.current)
    ((decodeAlike_ofReply agree.previous _ _).alike hline.previous hother.previous)

/-- A reply with an undeclared note in the status, in a section and in an entry of the locks. -/
def notedReply (connections : Int) (note : Value) : Value :=
  .object [
    ("connections", .object [("current", .ofInt connections), ("note", note)]),
    ("locks", .object [("admin", .object [
      ("note", note),
      ("timeLockedMicros", .object [("R", .ofInt 5), ("note", note)])])]),
    ("note", note)]

/-- The sample of a reply with notes. -/
def notedSample (connections : Int) (note : Value) (time : Time.Moment) : Sample where
  time := time
  cores := 0
  status := {
    connections := { current := connections }
    locks := some ⟨[("admin", { timeLocked := { read := 5 } })], List.pairwise_singleton ..⟩ }
  reply := notedReply connections note

/-- Seven connections now and three before, with a note about each. -/
def notedReplies (now before : Value) : Replies := ⟨notedReply 7 now, notedReply 3 before⟩

def notedLine (now before : Value) : StatLine :=
  ⟨notedSample 7 now ⟨2000000000, 0⟩, notedSample 3 before ⟨1000000000, 0⟩⟩

/-- Two samples that are a second apart. -/
def secondApart : Circumstances := ⟨⟨2000000000, 0⟩, 0, ⟨1000000000, 0⟩, 0⟩

/-- The lines are alike whatever the notes are; a note is shown if it is asked for. -/
theorem notes_unseen :
    (notedReplies (.ofInt 1) .null).Agree (notedReplies (.string "x") (.ofInt 2)) ∧
      Undistinguished (notedReplies (.ofInt 1) .null) (notedReplies (.string "x") (.ofInt 2))
        secondApart ∧
      LinesAlike (notedLine (.ofInt 1) .null) (notedLine (.string "x") (.ofInt 2)) {} ∧
      (notedLine (.ofInt 1) .null).cells { fields := some ["conn", "note"] } =
        .ok [("conn", "7"), ("note", "1")] ∧
      (notedLine (.string "x") (.ofInt 2)).cells { fields := some ["conn", "note"] } =
        .ok [("conn", "7"), ("note", "x")] := by
  have agree : (notedReplies (.ofInt 1) .null).Agree (notedReplies (.string "x") (.ofInt 2)) :=
    ⟨rfl, rfl⟩
  have unseen := undeclared_unseen agree secondApart
  exact ⟨agree, unseen, unseen.lines _ _ ⟨rfl, rfl⟩ ⟨rfl, rfl⟩ {}, rfl, rfl⟩

end ServerStatus

end LoadWatch
