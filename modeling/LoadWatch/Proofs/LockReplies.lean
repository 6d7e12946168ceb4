/-
  Proofs/LockReplies.lean --- what comes of a reply on locks.

  WHAT THIS FILE IS FOR.  Whether the polling of a server on its locks ends for
  good or is tried again is decided by the reply alone.  Here it is said, for
  every reply, which of the three outcomes it has: lock times are not supported,
  the reply is malformed, or there is a snapshot (`replyOutcomes`).

  What well-formed statistics are, and what they show, is said without the
  decoder (`ShowsAmounts`, `ShowsStatistics`).  That the decoder accepts exactly
  these documents follows from the layouts of the two records
  (`decodesAs_amounts`, `decodesAs_statistics`).  One inversion then tells the
  four ways in which a reply can turn out (`outcome_ofReply`), and each outcome
  is characterized by a case analysis on it.
-/
import LoadWatch.LockUsage
import LoadWatch.Proofs.Records

set_option autoImplicit false

namespace LoadWatch.LockUsage

open Json

/-! ## What the documents show -/

/-- The lock modes as they are written. -/
def modeKeys : List String := ["R", "W", "r", "w"]

/-- The parts of the lock statistics of a database as they are written. -/
def statisticsKeys : List String :=
  ["acquireCount", "acquireWaitCount", "timeLockedMicros", "timeAcquiringMicros"]

/-- The document shows an amount for every lock mode: each mode has its own counter, and one that
is missing counts as zero. -/
def ShowsAmounts (value : Value) (amounts : ModeAmounts) : Prop :=
  ∃ parts, value.parts? modeKeys = some parts ∧
    PartShows parts "R" ShowsCounter 0 amounts.read ∧
    PartShows parts "W" ShowsCounter 0 amounts.write ∧
    PartShows parts "r" ShowsCounter 0 amounts.intentRead ∧
    PartShows parts "w" ShowsCounter 0 amounts.intentWrite

/-- The document shows the lock statistics of a database. Counts that are missing or null are none,
and amounts of time that are missing are zero in all modes. -/
def ShowsStatistics (value : Value) (statistics : Statistics) : Prop :=
  ∃ parts, value.parts? statisticsKeys = some parts ∧
    PartShows parts "acquireCount" (ShowsOptional ShowsAmounts) none statistics.acquireCount ∧
    PartShows parts "acquireWaitCount" (ShowsOptional ShowsAmounts) none
      statistics.acquireWaitCount ∧
    PartShows parts "timeLockedMicros" ShowsAmounts {} statistics.timeLocked ∧
    PartShows parts "timeAcquiringMicros" ShowsAmounts {} statistics.timeAcquiring

/-- The locks are a mapping of well-formed statistics. -/
def WellFormed (locks : Value) : Prop :=
  ∃ members, locks = .object members ∧ ∀ member ∈ members, ∃ statistics,
    ShowsStatistics member.2 statistics

/-- Lock acquisitions are counted in this entry: it has a count that is not null. -/
def CountsIn (entry : Value) : Prop :=
  ∃ parts count, entry.parts? statisticsKeys = some parts ∧
    Keyed.lookup "acquireCount" parts = some count ∧ count ≠ .null

/-- Lock acquisitions are counted in at least one of the entries. -/
def CountsAcquisitions (locks : Value) : Prop :=
  ∃ members, locks = .object members ∧ ∃ member ∈ members, CountsIn member.2

/-! ## What is decoded -/

/-- Every mode is kept in a place of its own. -/
def modeAmountsLayout : Layout modeAmountsSchema where
  slots := [
    .of "R" decodesAs_counter (fun n amounts => { amounts with read := n }) (·.read),
    .of "W" decodesAs_counter (fun n amounts => { amounts with write := n }) (·.write),
    .of "r" decodesAs_counter (fun n amounts => { amounts with intentRead := n }) (·.intentRead),
    .of "w" decodesAs_counter (fun n amounts => { amounts with intentWrite := n }) (·.intentWrite)]
  fields_eq := rfl
  nodup := by decide
  apart := by simp [Slot.Apart, Slot.of]
  ext {left right} h := by
    obtain ⟨_, _, _, _⟩ := left
    obtain ⟨_, _, _, _⟩ := right
    simpa [Slot.of] using h

theorem decodesAs_amounts : DecodesAs modeAmountsSchema.decode ShowsAmounts := by
  intro value canonical amounts
  rw [modeAmountsLayout.decodesAs canonical]
  simp [Layout.Shows, Layout.names, modeAmountsLayout, Slot.of, Slot.Holds, ShowsAmounts,
    modeAmountsSchema, modeKeys]

/-- Every part of the statistics is kept in a place of its own. -/
def statisticsLayout : Layout statisticsSchema where
  slots := [
    .of "acquireCount" decodesAs_amounts.optional
      (fun amounts statistics => { statistics with acquireCount := amounts }) (·.acquireCount),
    .of "acquireWaitCount" decodesAs_amounts.optional
      (fun amounts statistics => { statistics with acquireWaitCount := amounts })
      (·.acquireWaitCount),
    .of "timeLockedMicros" decodesAs_amounts
      (fun amounts statistics => { statistics with timeLocked := amounts }) (·.timeLocked),
    .of "timeAcquiringMicros" decodesAs_amounts
      (fun amounts statistics => { statistics with timeAcquiring := amounts }) (·.timeAcquiring)]
  fields_eq := rfl
  nodup := by decide
  apart := by simp [Slot.Apart, Slot.of]
  ext {left right} h := by
    obtain ⟨_, _, _, _⟩ := left
    obtain ⟨_, _, _, _⟩ := right
    simpa [Slot.of] using h

theorem decodesAs_statistics : DecodesAs statisticsSchema.decode ShowsStatistics := by
  intro value canonical statistics
  rw [statisticsLayout.decodesAs canonical]
  simp [Layout.Shows, Layout.names, statisticsLayout, Slot.of, Slot.Holds, ShowsStatistics,
    statisticsSchema, statisticsKeys]

/-! ## Acquisitions -/

/-- What shows statistics counts acquisitions exactly if the statistics have such a count. -/
theorem countsIn_iff {value : Value} {statistics : Statistics}
    (h : ShowsStatistics value statistics) :
    CountsIn value ↔ statistics.acquireCount.isSome = true := by
  obtain ⟨parts, hparts, hcount, -⟩ := h
  simp only [CountsIn, hparts, Option.some.injEq, exists_and_left, exists_eq_left']
  rw [PartShows] at hcount
  cases hlookup : Keyed.lookup "acquireCount" parts with
  | none =>
    simp only [hlookup] at hcount
    simp [hcount]
  | some count =>
    simp only [hlookup] at hcount
    cases hstatistics : statistics.acquireCount with
    | none => simp_all [ShowsOptional]
    | some amounts => simp_all [ShowsOptional]

/-- Locks that show a table count acquisitions exactly if one of its values does. -/
theorem countsAcquisitions_iff {locks : Value} {table : Table Statistics}
    (h : ShowsTable ShowsStatistics locks table) : CountsAcquisitions locks ↔
      (table.values.any fun statistics => statistics.acquireCount.isSome) = true := by
  obtain ⟨members, rfl, hshows⟩ := h
  have hentries := hshows.exists_iff countsIn_iff
  simp only [CountsAcquisitions, Value.object.injEq, exists_eq_left', hentries, Table.values,
    List.any_map, List.any_eq_true, Function.comp_apply]

/-! ## Outcomes -/

/-- The ways in which a reply can turn out. -/
inductive Outcome (reply : Value) (time : Time.Moment) : Except DecodeFault Snapshot → Prop
  | missing (h : ¬∃ locks, reply.Has "locks" locks) : Outcome reply time (.error unsupported)
  | malformed {locks : Value} {mismatch : Mismatch} (has : reply.Has "locks" locks)
      (h : ¬WellFormed locks) : Outcome reply time (.error (.malformed mismatch))
  | counted {locks : Value} (has : reply.Has "locks" locks) (wellFormed : WellFormed locks)
      (counts : CountsAcquisitions locks) : Outcome reply time (.error unsupported)
  | accepted {locks : Value} {table : Table Statistics} (has : reply.Has "locks" locks)
      (shows : ShowsTable ShowsStatistics locks table) (h : ¬CountsAcquisitions locks) :
      Outcome reply time (.ok ⟨time, table⟩)

/-- Every reply turns out in one of these ways. -/
theorem outcome_ofReply {reply : Value} (canonical : reply.Canonical) (time : Time.Moment) :
    Outcome reply time (Snapshot.ofReply reply time) := by
  rw [Snapshot.ofReply]
  cases hlocks : reply.member? "locks" with
  | none => exact .missing (canonical.member?_eq_none_iff.mp hlocks)
  | some locks =>
    have hhas : reply.Has "locks" locks := canonical.member?_eq_some_iff.mp hlocks
    have hcanonical : locks.Canonical := canonical.of_has hhas
    cases hdecode : decodeTable statisticsSchema.decode locks with
    | error mismatch =>
      simp only [hdecode]
      refine .malformed hhas fun hwell => ?_
      obtain ⟨table, hshows⟩ := (exists_showsTable_iff hcanonical).mpr hwell
      rw [(decodesAs_statistics.table hcanonical _).mpr hshows] at hdecode
      cases hdecode
    | ok table =>
      have hshows := (decodesAs_statistics.table hcanonical _).mp hdecode
      have hwell : WellFormed locks := hshows.exists_members
      have hcounts := countsAcquisitions_iff hshows
      by_cases hany : (table.values.any fun statistics => statistics.acquireCount.isSome) = true
      · simp only [hdecode, hany, if_true]
        exact .counted hhas hwell (hcounts.mpr hany)
      · simp only [hdecode, hany]
        exact .accepted hhas hshows (mt hcounts.mp hany)

namespace Outcome

variable {reply : Value} {time : Time.Moment} {result : Except DecodeFault Snapshot}

theorem unsupported_iff (canonical : reply.Canonical) (h : Outcome reply time result) :
    result = .error unsupported ↔ (¬∃ locks, reply.Has "locks" locks) ∨
      ∃ locks, reply.Has "locks" locks ∧ WellFormed locks ∧ CountsAcquisitions locks := by
  cases h with
  | missing hnone => exact ⟨fun _ => .inl hnone, fun _ => rfl⟩
  | malformed has hnot =>
    rw [Value.exists_has_iff canonical has]
    exact ⟨nofun, fun h => h.elim (absurd ⟨_, has⟩) fun h => absurd h.1 hnot⟩
  | counted has hwell hcounts =>
    rw [Value.exists_has_iff canonical has]
    exact ⟨fun _ => .inr ⟨hwell, hcounts⟩, fun _ => rfl⟩
  | accepted has hshows hnot =>
    rw [Value.exists_has_iff canonical has]
    exact ⟨nofun, fun h => h.elim (absurd ⟨_, has⟩) fun h => absurd h.2 hnot⟩

theorem malformed_iff (canonical : reply.Canonical) (h : Outcome reply time result) :
    (∃ mismatch, result = .error (.malformed mismatch)) ↔
      ∃ locks, reply.Has "locks" locks ∧ ¬WellFormed locks := by
  cases h with
  | missing hnone => exact ⟨nofun, fun ⟨locks, has, _⟩ => absurd ⟨locks, has⟩ hnone⟩
  | malformed has hnot => exact ⟨fun _ => ⟨_, has, hnot⟩, fun _ => ⟨_, rfl⟩⟩
  | counted has hwell _ =>
    rw [Value.exists_has_iff canonical has]
    exact ⟨nofun, absurd hwell⟩
  | accepted has hshows _ =>
    rw [Value.exists_has_iff canonical has]
    exact ⟨nofun, absurd hshows.exists_members⟩

theorem accepted_iff (canonical : reply.Canonical) (h : Outcome reply time result)
    (snapshot : Snapshot) : result = .ok snapshot ↔
      snapshot.time = time ∧ ∃ locks, reply.Has "locks" locks ∧
        ShowsTable ShowsStatistics locks snapshot.locks ∧ ¬CountsAcquisitions locks := by
  cases h with
  | missing hnone => exact ⟨nofun, fun ⟨_, locks, has, _⟩ => absurd ⟨locks, has⟩ hnone⟩
  | malformed has hnot =>
    rw [Value.exists_has_iff canonical has]
    exact ⟨nofun, fun h => absurd h.2.1.exists_members hnot⟩
  | counted has _ hcounts =>
    rw [Value.exists_has_iff canonical has]
    exact ⟨nofun, fun h => absurd hcounts h.2.2⟩
  | @accepted locks table has hshows hnot =>
    rw [Value.exists_has_iff canonical has, Except.ok.injEq]
    constructor
    · rintro rfl
      exact ⟨rfl, hshows, hnot⟩
    · rintro ⟨rfl, hshows', -⟩
      have hdecode := decodesAs_statistics.table (canonical.of_has has)
      obtain rfl : table = snapshot.locks :=
        Except.ok.inj (((hdecode _).mpr hshows).symm.trans ((hdecode _).mpr hshows'))
      rfl

theorem exhaustive (h : Outcome reply time result) : result = .error unsupported ∨
    (∃ mismatch, result = .error (.malformed mismatch)) ∨ ∃ snapshot, result = .ok snapshot := by
  cases h with
  | missing _ => exact .inl rfl
  | malformed _ _ => exact .inr (.inl ⟨_, rfl⟩)
  | counted _ _ _ => exact .inl rfl
  | accepted _ _ _ => exact .inr (.inr ⟨_, rfl⟩)

end Outcome

/-! ## Members that are not declared -/

/-- The reply with its declared members only: the locks, of every entry of them the parts of its
statistics, and of every part the amounts for the lock modes. -/
def declaredOnly (reply : Value) : Value :=
  reply.restrict ["locks"]
    (Value.mapMembers (Value.restrict statisticsKeys (Value.restrict modeKeys id)))

theorem decode_amounts_restrict (value : Value) :
    modeAmountsSchema.decode (value.restrict modeKeys id) = modeAmountsSchema.decode value :=
  Schema.decode_restrict (fun _ _ _ _ => rfl) value

theorem decode_statistics_restrict (value : Value) :
    statisticsSchema.decode (value.restrict statisticsKeys (Value.restrict modeKeys id)) =
      statisticsSchema.decode value := by
  refine Schema.decode_restrict ?_ value
  simp [Schema.Unmoved, statisticsSchema, RecordField.of, decode_amounts_restrict,
    decodeOptional_restrict decode_amounts_restrict]

theorem ofReply_declaredOnly (reply : Value) (time : Time.Moment) :
    Snapshot.ofReply (declaredOnly reply) time = Snapshot.ofReply reply time := by
  rw [Snapshot.ofReply, Snapshot.ofReply, declaredOnly,
    Value.member?_restrict (List.mem_singleton.mpr rfl)]
  cases reply.member? "locks" with
  | none => rfl
  | some locks =>
    simp only [Option.map_some, decodeTable_mapMembers decode_statistics_restrict]

/-! ## The main theorem -/

/-- What comes of a reply, for every reply: a feature that is not supported, a malformed reply, or a
snapshot. -/
structure ReplyOutcomes (reply : Value) (time : Time.Moment) : Prop where
  /-- Lock times are not supported if the reply has no locks, or if the locks are well-formed and
  lock acquisitions are counted in any of the entries. -/
  notSupported : Snapshot.ofReply reply time = .error unsupported ↔
    (¬∃ locks, reply.Has "locks" locks) ∨
      ∃ locks, reply.Has "locks" locks ∧ WellFormed locks ∧ CountsAcquisitions locks
  /-- The reply is malformed if it has locks that are not well-formed, whatever is counted. -/
  malformed : (∃ mismatch, Snapshot.ofReply reply time = .error (.malformed mismatch)) ↔
    ∃ locks, reply.Has "locks" locks ∧ ¬WellFormed locks
  /-- A snapshot has exactly what the entries of the locks show. -/
  accepted : ∀ snapshot, Snapshot.ofReply reply time = .ok snapshot ↔
    snapshot.time = time ∧ ∃ locks, reply.Has "locks" locks ∧
      ShowsTable ShowsStatistics locks snapshot.locks ∧ ¬CountsAcquisitions locks
  /-- There is no other outcome. -/
  exhaustive : Snapshot.ofReply reply time = .error unsupported ∨
    (∃ mismatch, Snapshot.ofReply reply time = .error (.malformed mismatch)) ∨
      ∃ snapshot, Snapshot.ofReply reply time = .ok snapshot
  /-- No entry of a snapshot counts lock acquisitions. -/
  uncounted : ∀ snapshot, Snapshot.ofReply reply time = .ok snapshot →
    ∀ entry ∈ snapshot.locks.entries, entry.2.acquireCount = none
  /-- Members that are not declared have no influence. -/
  declared : Snapshot.ofReply (declaredOnly reply) time = Snapshot.ofReply reply time

/-- Every reply has exactly one of the three outcomes, and it is told which. -/
theorem replyOutcomes {reply : Value} (canonical : reply.Canonical) (time : Time.Moment) :
    ReplyOutcomes reply time := by
  have houtcome := outcome_ofReply canonical time
  have haccepted := houtcome.accepted_iff canonical
  refine ⟨houtcome.unsupported_iff canonical, houtcome.malformed_iff canonical, haccepted,
    houtcome.exhaustive, ?_, ofReply_declaredOnly reply time⟩
  intro snapshot hok entry hentry
  obtain ⟨-, locks, -, hshows, hnot⟩ := (haccepted snapshot).mp hok
  rw [countsAcquisitions_iff hshows] at hnot
  have hnone : ∀ statistics ∈ snapshot.locks.values, statistics.acquireCount = none := by
    simpa using hnot
  exact hnone entry.2 (List.mem_map_of_mem hentry)

/-- A reply on two databases: what the first one counts, and how long locks of the other were held
in the plain read mode. -/
def twoDatabases (count held : Value) : Value :=
  .object [("locks", .object [
    ("admin", .object [("acquireCount", count)]),
    ("test", .object [("timeLockedMicros", .object [("R", held), ("X", .string "none")])])])]

theorem canonical_twoDatabases (count held : Value) (hcount : count.Canonical)
    (hheld : held.Canonical) : (twoDatabases count held).Canonical := by
  have hdatabases : "admin" < "test" := by decide
  have hmodes : "R" < "X" := by decide
  have hnone : (Value.string "none").Canonical := trivial
  have hheld := Value.canonical_pair hmodes hheld hnone
  exact Value.canonical_singleton (Value.canonical_pair hdatabases
    (Value.canonical_singleton hcount) (Value.canonical_singleton hheld))

/-- Without a count the times are told; a count hides them, unless the reply is malformed. -/
theorem twoDatabases_outcomes :
    ((twoDatabases .null (.ofInt 7)).Canonical ∧
      ReplyOutcomes (twoDatabases .null (.ofInt 7)) ⟨0, 0⟩ ∧
      (Snapshot.ofReply (twoDatabases .null (.ofInt 7)) ⟨0, 0⟩).map (·.locks.entries) =
        .ok [("admin", {}), ("test", { timeLocked := { read := 7 } })]) ∧
    ((twoDatabases (.object []) (.ofInt 7)).Canonical ∧
      ReplyOutcomes (twoDatabases (.object []) (.ofInt 7)) ⟨0, 0⟩ ∧
      Snapshot.ofReply (twoDatabases (.object []) (.ofInt 7)) ⟨0, 0⟩ = .error unsupported) ∧
    ((twoDatabases (.object []) .null).Canonical ∧
      ReplyOutcomes (twoDatabases (.object []) .null) ⟨0, 0⟩ ∧
      Snapshot.ofReply (twoDatabases (.object []) .null) ⟨0, 0⟩ =
        .error (.malformed (.wrongType .null .counter))) := by
  have hseven : (Value.ofInt 7).Canonical := by
    simp [Value.ofInt, Value.Canonical, minInt64, wordCount]
  have hempty : (Value.object []).Canonical := ⟨.nil, trivial⟩
  have htold := canonical_twoDatabases .null (.ofInt 7) trivial hseven
  have hhidden := canonical_twoDatabases (.object []) (.ofInt 7) hempty hseven
  have hmalformed := canonical_twoDatabases (.object []) .null hempty trivial
  exact ⟨⟨htold, replyOutcomes htold _, rfl⟩, ⟨hhidden, replyOutcomes hhidden _, rfl⟩,
    ⟨hmalformed, replyOutcomes hmalformed _, rfl⟩⟩

end LoadWatch.LockUsage
