/-
  Proofs/NamespaceReplies.lean --- what comes of a reply on namespaces.

  WHAT THIS FILE IS FOR.  The reply on the time spent on namespaces has a note
  among them, which is a text and no namespace.  Here it is said, for every
  reply, which table of namespaces it stands for, and what is wrong with it if
  it stands for none (`totalsOutcomes`).

  What the totals show is said by asking for one name after the other
  (`ShowsTotals`), without the decoder and without the order in which it walks
  through the members.  The note is never asked for, and so it can be anything.
  The decoder takes it out first, and then the totals show their table entry by
  entry, as any other table does (`showsTotals_iff`).

  No table is left out: each one whose numbers have 64 bits is what some reply
  stands for (`ofReply_reportedTotals`).
-/
import LoadWatch.Proofs.Records
import LoadWatch.Proofs.ReportLines

set_option autoImplicit false

namespace LoadWatch.NamespaceTop

open Json

/-! ## What the documents show -/

/-- The parts of a usage as they are written. -/
def usageKeys : List String := ["time", "count"]

/-- The parts of the activity of a namespace as they are written. -/
def activityKeys : List String := ["total", "readLock", "writeLock"]

/-- The document shows a usage: its time and its count are counters, and one that is missing is
zero. -/
def ShowsUsage (value : Value) (usage : Usage) : Prop :=
  ∃ parts, value.parts? usageKeys = some parts ∧
    PartShows parts "time" ShowsCounter 0 usage.time ∧
    PartShows parts "count" ShowsCounter 0 usage.count

/-- The document shows the activity of a namespace. A usage that is missing is zero in both
parts. -/
def ShowsActivity (value : Value) (activity : Activity) : Prop :=
  ∃ parts, value.parts? activityKeys = some parts ∧
    PartShows parts "total" ShowsUsage {} activity.total ∧
    PartShows parts "readLock" ShowsUsage {} activity.read ∧
    PartShows parts "writeLock" ShowsUsage {} activity.write

/-- The totals show a table of namespaces: what they have under a name shows what the table has
under it, and the table has no other names. The note is no namespace, whatever is written there. -/
def ShowsTotals (totals : Value) (table : Table Activity) : Prop :=
  (∃ members, totals = .object members) ∧ table.get? "note" = none ∧
    ∀ name, name ≠ "note" → Option.Rel ShowsActivity (totals.member? name) (table.get? name)

/-- The totals are an object, and whatever they have under a name other than the note is the
activity of a namespace. -/
def WellFormed (totals : Value) : Prop :=
  (∃ members, totals = .object members) ∧
    ∀ name value, name ≠ "note" → totals.Has name value → ∃ activity, ShowsActivity value activity

/-! ## What is decoded -/

/-- Time and count are kept in places of their own. -/
def usageLayout : Layout usageSchema where
  slots := [
    .of "time" decodesAs_counter (fun n usage => { usage with time := n }) (·.time),
    .of "count" decodesAs_counter (fun n usage => { usage with count := n }) (·.count)]
  fields_eq := rfl
  nodup := by decide
  apart := by simp [Slot.Apart, Slot.of]
  ext {left right} h := by
    obtain ⟨_, _⟩ := left
    obtain ⟨_, _⟩ := right
    simpa [Slot.of] using h

theorem decodesAs_usage : DecodesAs usageSchema.decode ShowsUsage := by
  intro value canonical usage
  rw [usageLayout.decodesAs canonical]
  simp [Layout.Shows, Layout.names, usageLayout, Slot.of, Slot.Holds, ShowsUsage, usageSchema,
    usageKeys]

/-- The three usages are kept in places of their own. -/
def activityLayout : Layout activitySchema where
  slots := [
    .of "total" decodesAs_usage (fun usage activity => { activity with total := usage }) (·.total),
    .of "readLock" decodesAs_usage (fun usage activity => { activity with read := usage }) (·.read),
    .of "writeLock" decodesAs_usage (fun usage activity => { activity with write := usage })
      (·.write)]
  fields_eq := rfl
  nodup := by decide
  apart := by simp [Slot.Apart, Slot.of]
  ext {left right} h := by
    obtain ⟨_, _, _⟩ := left
    obtain ⟨_, _, _⟩ := right
    simpa [Slot.of] using h

theorem decodesAs_activity : DecodesAs activitySchema.decode ShowsActivity := by
  intro value canonical activity
  rw [activityLayout.decodesAs canonical]
  simp [Layout.Shows, Layout.names, activityLayout, Slot.of, Slot.Holds, ShowsActivity,
    activitySchema, activityKeys]

/-! ## The note -/

theorem canonical_withoutNote {totals : Value} (canonical : totals.Canonical) :
    (withoutNote totals).Canonical := by
  cases totals with
  | object members =>
    obtain ⟨ascending, hmembers⟩ := Value.canonical_object_iff.mp canonical
    refine Value.canonical_object_iff.mpr ⟨Keyed.ascending_erase ascending "note", ?_⟩
    exact fun member hmember => hmembers member (List.mem_of_mem_filter hmember)
  | _ => exact canonical

/-- Without the note, the totals show a table as any document does. -/
theorem showsTotals_iff {totals : Value} (canonical : totals.Canonical) {table : Table Activity} :
    ShowsTotals totals table ↔ ShowsTable ShowsActivity (withoutNote totals) table := by
  cases totals with
  | object members =>
    have ascending := (Value.canonical_object_iff.mp canonical).1
    have hentries : ShowsEntries ShowsActivity (Keyed.erase "note" members) table.entries ↔
        ∀ name, Option.Rel ShowsActivity (Keyed.lookup name (Keyed.erase "note" members))
          (table.get? name) :=
      showsEntries_iff_lookup (Keyed.ascending_erase ascending "note") table.ascending
    simp only [ShowsTotals, ShowsTable, withoutNote, Value.object.injEq, exists_eq', true_and,
      exists_eq_left', hentries, Keyed.lookup_erase, Value.member?]
    constructor
    · rintro ⟨hnote, hnames⟩ name
      by_cases hname : name = "note"
      · subst hname
        rw [if_pos rfl, hnote]
        exact .none
      · rw [if_neg hname]
        exact hnames name hname
    · intro h
      refine ⟨?_, fun name hname => ?_⟩
      · have hnote := h "note"
        rw [if_pos rfl] at hnote
        generalize table.get? "note" = found at hnote
        cases hnote
        rfl
      · have hshows := h name
        rwa [if_neg hname] at hshows
  | _ =>
    constructor
    · rintro ⟨⟨_, h⟩, -⟩
      cases h
    · rintro ⟨_, h, -⟩
      cases h

/-- Totals show some table exactly if they are well-formed. -/
theorem exists_showsTotals_iff {totals : Value} (canonical : totals.Canonical) :
    (∃ table, ShowsTotals totals table) ↔ WellFormed totals := by
  simp only [showsTotals_iff canonical, exists_showsTable_iff (canonical_withoutNote canonical)]
  cases totals with
  | object members =>
    simp only [withoutNote, WellFormed, Value.Has, Value.object.injEq, exists_eq', true_and,
      exists_eq_left', Keyed.erase, List.mem_filter, decide_eq_true_eq, Prod.forall]
    exact ⟨fun h name value hname hmem => h name value ⟨hmem, hname⟩,
      fun h name value hmem => h name value hmem.2 hmem.1⟩
  | _ =>
    constructor
    · rintro ⟨_, h, -⟩
      cases h
    · rintro ⟨⟨_, h⟩, -⟩
      cases h

/-- The totals with another note, or with none. -/
def annotate (note : Option Value) : Value → Value
  | .object members =>
    .object (match note with
      | some note => Keyed.insert "note" note members
      | none => Keyed.erase "note" members)
  | value => value

theorem withoutNote_annotate (note : Option Value) (totals : Value) :
    withoutNote (annotate note totals) = withoutNote totals := by
  cases totals with
  | object members =>
    cases note with
    | none => simp [annotate, withoutNote, Keyed.erase, List.filter_filter]
    | some note => simp [annotate, withoutNote, Keyed.erase_insert]
  | _ => rfl

/-! ## Outcomes -/

section Outcomes

variable {reply : Value} {time : Time.Moment} {cores : Int}

/-- A reply with totals turns out as they do without the note. -/
theorem ofReply_of_has (canonical : reply.Canonical) {totals : Value}
    (has : reply.Has "totals" totals) : Snapshot.ofReply reply time cores =
      match decodeTable activitySchema.decode (withoutNote totals) with
      | .ok table => .ok ⟨time, cores, table⟩
      | .error mismatch => .error (.malformed mismatch) := by
  have hmember := canonical.member?_eq_some_iff.mpr has
  cases hdecode : decodeTable activitySchema.decode (withoutNote totals) with
  | ok table => simp only [Snapshot.ofReply, hmember, hdecode]
  | error mismatch => simp only [Snapshot.ofReply, hmember, hdecode]

theorem ofReply_of_not_has (canonical : reply.Canonical)
    (h : ¬∃ totals, reply.Has "totals" totals) :
    Snapshot.ofReply reply time cores = .error (.missing "totals") := by
  rw [Snapshot.ofReply, canonical.member?_eq_none_iff.mpr h]

theorem ofReply_eq_ok_iff (canonical : reply.Canonical) {snapshot : Snapshot} :
    Snapshot.ofReply reply time cores = .ok snapshot ↔
      snapshot.time = time ∧ snapshot.cores = cores ∧
        ∃ totals, reply.Has "totals" totals ∧ ShowsTotals totals snapshot.totals := by
  by_cases hhas : ∃ totals, reply.Has "totals" totals
  · obtain ⟨totals, has⟩ := hhas
    have htotals := canonical.of_has has
    have hdecode := decodesAs_activity.table (canonical_withoutNote htotals)
    rw [ofReply_of_has canonical has, Value.exists_has_iff canonical has, showsTotals_iff htotals,
      ← hdecode]
    cases decodeTable activitySchema.decode (withoutNote totals) with
    | error mismatch => simp
    | ok table =>
      obtain ⟨_, _, _⟩ := snapshot
      simp only [Except.ok.injEq, Snapshot.mk.injEq]
      exact ⟨fun ⟨h, i, j⟩ => ⟨h.symm, i.symm, j⟩, fun ⟨h, i, j⟩ => ⟨h.symm, i.symm, j⟩⟩
  · rw [ofReply_of_not_has canonical hhas]
    exact ⟨nofun, fun ⟨_, _, totals, has, _⟩ => absurd ⟨totals, has⟩ hhas⟩

theorem ofReply_eq_missing_iff (canonical : reply.Canonical) :
    Snapshot.ofReply reply time cores = .error (.missing "totals") ↔
      ¬∃ totals, reply.Has "totals" totals := by
  refine ⟨fun h hhas => ?_, ofReply_of_not_has canonical⟩
  obtain ⟨totals, has⟩ := hhas
  rw [ofReply_of_has canonical has] at h
  split at h <;> cases h

theorem ofReply_eq_malformed_iff (canonical : reply.Canonical) :
    (∃ mismatch, Snapshot.ofReply reply time cores = .error (.malformed mismatch)) ↔
      ∃ totals, reply.Has "totals" totals ∧ ¬WellFormed totals := by
  by_cases hhas : ∃ totals, reply.Has "totals" totals
  · obtain ⟨totals, has⟩ := hhas
    have htotals := canonical.of_has has
    have herror := decodesAs_activity.table.exists_error_iff (canonical_withoutNote htotals)
    simp only [← showsTotals_iff htotals, exists_showsTotals_iff htotals] at herror
    rw [ofReply_of_has canonical has, Value.exists_has_iff canonical has, ← herror]
    cases decodeTable activitySchema.decode (withoutNote totals) <;> simp
  · rw [ofReply_of_not_has canonical hhas]
    exact ⟨nofun, fun ⟨totals, has, _⟩ => absurd ⟨totals, has⟩ hhas⟩

end Outcomes

/-! ## What has no influence -/

/-- The reply with its declared members only: the totals, of every namespace its usages, and of
every usage its time and its count. -/
def declaredOnly (reply : Value) : Value :=
  reply.restrict ["totals"]
    (Value.mapMembers (Value.restrict activityKeys (Value.restrict usageKeys id)))

theorem decode_usage_restrict (value : Value) :
    usageSchema.decode (value.restrict usageKeys id) = usageSchema.decode value :=
  Schema.decode_restrict (fun _ _ _ _ => rfl) value

theorem decode_activity_restrict (value : Value) :
    activitySchema.decode (value.restrict activityKeys (Value.restrict usageKeys id)) =
      activitySchema.decode value := by
  refine Schema.decode_restrict ?_ value
  simp [Schema.Unmoved, activitySchema, RecordField.of, decode_usage_restrict]

theorem withoutNote_mapMembers (change : Value → Value) (totals : Value) :
    withoutNote (totals.mapMembers change) = (withoutNote totals).mapMembers change := by
  cases totals with
  | object members =>
    simp only [Value.mapMembers, withoutNote, Keyed.erase, List.filter_map, Function.comp_def]
  | _ => rfl

theorem ofReply_declaredOnly (reply : Value) (time : Time.Moment) (cores : Int) :
    Snapshot.ofReply (declaredOnly reply) time cores = Snapshot.ofReply reply time cores := by
  rw [Snapshot.ofReply, Snapshot.ofReply, declaredOnly,
    Value.member?_restrict (List.mem_singleton.mpr rfl)]
  cases reply.member? "totals" with
  | none => rfl
  | some totals =>
    simp only [Option.map_some, withoutNote_mapMembers,
      decodeTable_mapMembers decode_activity_restrict]

/-- The reply with another note in its totals, or with none. -/
def withNote (note : Option Value) : Value → Value
  | .object members =>
    .object (members.map fun member =>
      (member.1, if member.1 = "totals" then annotate note member.2 else member.2))
  | value => value

theorem member?_withNote (note : Option Value) (reply : Value) :
    (withNote note reply).member? "totals" = (reply.member? "totals").map (annotate note) := by
  cases reply with
  | object members =>
    exact Keyed.lookup_map
      (fun name value => if name = "totals" then annotate note value else value) "totals" members
  | _ => rfl

theorem ofReply_withNote (note : Option Value) (reply : Value) (time : Time.Moment) (cores : Int) :
    Snapshot.ofReply (withNote note reply) time cores = Snapshot.ofReply reply time cores := by
  rw [Snapshot.ofReply, Snapshot.ofReply, member?_withNote]
  cases reply.member? "totals" with
  | none => rfl
  | some totals => simp only [Option.map_some, withoutNote_annotate]

/-! ## The tables that replies stand for -/

theorem ShowsUsage.fits {value : Value} {usage : Usage} (h : ShowsUsage value usage) :
    usage.Fits := by
  obtain ⟨parts, -, htime, hcount⟩ := h
  exact ⟨htime.of_shows (by decide) fun _ _ h => h.2, hcount.of_shows (by decide) fun _ _ h => h.2⟩

theorem ShowsActivity.fits {value : Value} {activity : Activity}
    (h : ShowsActivity value activity) : activity.Fits := by
  obtain ⟨parts, -, htotal, hread, hwrite⟩ := h
  have hinitial : Usage.Fits {} := ⟨by decide, by decide⟩
  exact ⟨htotal.of_shows hinitial fun _ _ h => h.fits, hread.of_shows hinitial fun _ _ h => h.fits,
    hwrite.of_shows hinitial fun _ _ h => h.fits⟩

/-- The activity of a namespace as it is reported, with all parts written out. -/
def Activity.reported (activity : Activity) : Value :=
  .object [("readLock", activity.read.document), ("total", activity.total.document),
    ("writeLock", activity.write.document)]

/-- A reply on the namespaces of a table. -/
def reportedTotals (table : Table Activity) : Value :=
  .object [("totals", Report.tableDocument Activity.reported table)]

theorem showsUsage_document {usage : Usage} (h : usage.Fits) : ShowsUsage usage.document usage :=
  ⟨_, rfl, ⟨rfl, h.time⟩, ⟨rfl, h.count⟩⟩

theorem showsActivity_reported {activity : Activity} (h : activity.Fits) :
    ShowsActivity activity.reported activity :=
  ⟨_, rfl, showsUsage_document h.total, showsUsage_document h.read, showsUsage_document h.write⟩

theorem writable_reported {activity : Activity} (h : activity.Fits) :
    activity.reported.Writable 2 := by
  refine Value.writable_object_iff.mpr
    ⟨Keyed.ascending_of_keys ["readLock", "total", "writeLock"] rfl (by decide), ?_⟩
  simp only [List.forall_mem_cons, List.not_mem_nil, false_imp_iff, implies_true, and_true]
  exact ⟨h.read.writable, h.total.writable, h.write.writable⟩

theorem canonical_reportedTotals {table : Table Activity}
    (h : ∀ entry ∈ table.entries, entry.2.Fits) : (reportedTotals table).Canonical := by
  have hwritable := Report.writable_tableDocument fun entry hentry =>
    writable_reported (h entry hentry)
  exact Value.canonical_singleton hwritable.canonical

/-- A reply on all names of a table stands for it. -/
theorem ofReply_reportedTotals {table : Table Activity} (hnote : table.get? "note" = none)
    (hfits : ∀ entry ∈ table.entries, entry.2.Fits) (time : Time.Moment) (cores : Int) :
    Snapshot.ofReply (reportedTotals table) time cores = .ok ⟨time, cores, table⟩ := by
  have canonical := canonical_reportedTotals hfits
  have has : (reportedTotals table).Has "totals" (Report.tableDocument Activity.reported table) :=
    ⟨_, rfl, List.mem_singleton.mpr rfl⟩
  refine (ofReply_eq_ok_iff canonical).mpr ⟨rfl, rfl, _, has, ⟨_, rfl⟩, hnote, fun name _ => ?_⟩
  have hlookup : (Report.tableDocument Activity.reported table).member? name =
      (table.get? name).map Activity.reported :=
    Keyed.lookup_map (fun _ => Activity.reported) name table.entries
  rw [hlookup]
  cases hactivity : table.get? name with
  | none => exact .none
  | some activity =>
    exact .some (showsActivity_reported (hfits _ (Table.get?_eq_some_iff.mp hactivity)))

/-! ## The main theorem -/

/-- What comes of a reply, for every reply: the totals are missing, the totals are malformed, or
there is a snapshot. -/
structure TotalsOutcomes (reply : Value) (time : Time.Moment) (cores : Int) : Prop where
  /-- A snapshot has exactly the table that the totals show. -/
  accepted : ∀ snapshot, Snapshot.ofReply reply time cores = .ok snapshot ↔
    snapshot.time = time ∧ snapshot.cores = cores ∧
      ∃ totals, reply.Has "totals" totals ∧ ShowsTotals totals snapshot.totals
  /-- The totals are missing if the reply is no object, or has no such member. -/
  missing : Snapshot.ofReply reply time cores = .error (.missing "totals") ↔
    ¬∃ totals, reply.Has "totals" totals
  /-- The reply is malformed if it has totals that are no object, or have a member other than the
  note that is not the activity of a namespace. -/
  malformed : (∃ mismatch, Snapshot.ofReply reply time cores = .error (.malformed mismatch)) ↔
    ∃ totals, reply.Has "totals" totals ∧ ¬WellFormed totals
  /-- There is no other outcome. -/
  exhaustive : Snapshot.ofReply reply time cores = .error (.missing "totals") ∨
    (∃ mismatch, Snapshot.ofReply reply time cores = .error (.malformed mismatch)) ∨
      ∃ snapshot, Snapshot.ofReply reply time cores = .ok snapshot
  /-- The note has no influence, whatever it is, and whether there is one or not. -/
  noted : ∀ note, Snapshot.ofReply (withNote note reply) time cores =
    Snapshot.ofReply reply time cores
  /-- Members that are not declared have no influence. -/
  declared : Snapshot.ofReply (declaredOnly reply) time cores =
    Snapshot.ofReply reply time cores

theorem exhaustive_ofReply (reply : Value) (time : Time.Moment) (cores : Int) :
    Snapshot.ofReply reply time cores = .error (.missing "totals") ∨
      (∃ mismatch, Snapshot.ofReply reply time cores = .error (.malformed mismatch)) ∨
        ∃ snapshot, Snapshot.ofReply reply time cores = .ok snapshot := by
  unfold Snapshot.ofReply
  split
  · exact .inl rfl
  · split
    · exact .inr (.inr ⟨_, rfl⟩)
    · exact .inr (.inl ⟨_, rfl⟩)

/-- Every reply has exactly one of the three outcomes, and it is told which. The tables that replies
stand for are those without a note among the names whose numbers have 64 bits. -/
theorem totalsOutcomes :
    (∀ reply : Value, reply.Canonical → ∀ time cores, TotalsOutcomes reply time cores) ∧
      ∀ (table : Table Activity) (time : Time.Moment) (cores : Int),
        (∃ reply, reply.Canonical ∧ Snapshot.ofReply reply time cores = .ok ⟨time, cores, table⟩) ↔
          table.get? "note" = none ∧ ∀ entry ∈ table.entries, entry.2.Fits := by
  constructor
  · intro reply canonical time cores
    exact {
      accepted := fun _ => ofReply_eq_ok_iff canonical
      missing := ofReply_eq_missing_iff canonical
      malformed := ofReply_eq_malformed_iff canonical
      exhaustive := exhaustive_ofReply reply time cores
      noted := fun note => ofReply_withNote note reply time cores
      declared := ofReply_declaredOnly reply time cores }
  · intro table time cores
    constructor
    · rintro ⟨reply, canonical, hok⟩
      obtain ⟨-, -, totals, -, hobject, hnote, hnames⟩ := (ofReply_eq_ok_iff canonical).mp hok
      refine ⟨hnote, fun entry hentry => ?_⟩
      have hget := Table.get?_eq_some_iff.mpr hentry
      have hname : entry.1 ≠ "note" := fun heq => by
        rw [← heq, hget] at hnote
        cases hnote
      have hshows := hnames entry.1 hname
      rw [hget] at hshows
      generalize totals.member? entry.1 = found at hshows
      cases hshows with
      | some hshows => exact hshows.fits
    · rintro ⟨hnote, hfits⟩
      exact ⟨_, canonical_reportedTotals hfits, ofReply_reportedTotals hnote hfits time cores⟩

/-- A reply on one namespace and a note: how long the namespace was read, with zeros written out or
not, and something that is declared nowhere. -/
def notedReply (note read : Value) : Value :=
  .object [("ok", .ofInt 1), ("totals", .object [
    ("note", note),
    ("test.orders", .object [
      ("queries", .string "none"),
      ("readLock", .object [("count", .ofInt 0), ("time", read)])])])]

theorem canonical_notedReply {note read : Value} (hnote : note.Canonical)
    (hread : read.Canonical) : (notedReply note read).Canonical := by
  have hmembers : "ok" < "totals" := by decide
  have hnames : "note" < "test.orders" := by decide
  have hparts : "queries" < "readLock" := by decide
  have hcounters : "count" < "time" := by decide
  have hone : (Value.ofInt 1).Canonical := (Value.writable_ofInt 0 (by decide)).canonical
  have hzero : (Value.ofInt 0).Canonical := (Value.writable_ofInt 0 (by decide)).canonical
  have hnone : (Value.string "none").Canonical := trivial
  have hactivity := Value.canonical_pair hparts hnone (Value.canonical_pair hcounters hzero hread)
  exact Value.canonical_pair hmembers hone (Value.canonical_pair hnames hnote hactivity)

/-- A note is passed over, be it a text or a document like that of a namespace; what is no counter
in a namespace is not. -/
theorem notedReply_outcomes :
    ((notedReply (.string "all times in microseconds") (.ofInt 53)).Canonical ∧
      TotalsOutcomes (notedReply (.string "all times in microseconds") (.ofInt 53)) ⟨0, 0⟩ 4 ∧
      (Snapshot.ofReply (notedReply (.string "all times in microseconds") (.ofInt 53)) ⟨0, 0⟩ 4).map
        (·.totals.entries) = .ok [("test.orders", { read := { time := 53 } })]) ∧
    ((notedReply (.object [("total", .null)]) (.string "lots")).Canonical ∧
      TotalsOutcomes (notedReply (.object [("total", .null)]) (.string "lots")) ⟨0, 0⟩ 4 ∧
      Snapshot.ofReply (notedReply (.object [("total", .null)]) (.string "lots")) ⟨0, 0⟩ 4 =
        .error (.malformed (.wrongType (.string "lots") .counter))) := by
  have hcounter : (Value.ofInt 53).Canonical := (Value.writable_ofInt 0 (by decide)).canonical
  have htext : ∀ text, (Value.string text).Canonical := fun _ => trivial
  have hnull : Value.null.Canonical := trivial
  have hread := canonical_notedReply (htext "all times in microseconds") hcounter
  have hnote : (Value.object [("total", .null)]).Canonical := Value.canonical_singleton hnull
  have hmalformed := canonical_notedReply hnote (htext "lots")
  exact ⟨⟨hread, totalsOutcomes.1 _ hread _ _, rfl⟩,
    ⟨hmalformed, totalsOutcomes.1 _ hmalformed _ _, rfl⟩⟩

end LoadWatch.NamespaceTop
