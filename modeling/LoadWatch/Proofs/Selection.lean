/-
  Proofs/Selection.lean --- what a report shows are its first entries.

  WHAT THIS FILE IS FOR.  Three reports rank the entries of a table of
  differences and show the first of them.  They do so in one way, with a metric
  and an absolute value of their own, and so what is shown is described once
  (`Selects`): how many entries these are, in which order they come, what decides
  their place, and that everything left out belongs behind them.

  The absolute value is looked up in the current snapshot.  It is there for every
  entry, because a difference has no keys but those of both snapshots.  Metrics
  and absolute values are told by what they are, member by member; those that are
  sums are told under the condition that 64 bits hold the sum.

  Main result: `ranked_selects`.
-/
import LoadWatch.LockUsage
import LoadWatch.NamespaceTop
import LoadWatch.OperationMetrics
import LoadWatch.Proofs.RankingOrder
import LoadWatch.Proofs.Tables

set_option autoImplicit false

namespace LoadWatch.Ranking

/-! ## The first entries of a ranking -/

theorem shown_eq_take (entries : List Entry) (listCount : Nat) :
    shown entries listCount = (rank entries).take (displayCount listCount) := by
  have hpos : displayCount listCount ≠ 0 := by
    unfold displayCount defaultCount
    split <;> omega
  unfold shown truncate
  rw [if_neg hpos]

theorem length_shown (entries : List Entry) (listCount : Nat) :
    (shown entries listCount).length =
      min entries.length (if listCount = 0 then 9 else listCount) := by
  rw [shown_eq_take, List.length_take, (rank_perm entries).length_eq, Nat.min_comm]
  rfl

theorem mem_of_mem_shown {entries : List Entry} {listCount : Nat} {entry : Entry}
    (h : entry ∈ shown entries listCount) : entry ∈ entries := by
  rw [shown_eq_take] at h
  exact (rank_perm entries).mem_iff.mp (List.mem_of_mem_take h)

theorem nodup_keys_shown {entries : List Entry} (h : (entries.map Entry.key).Nodup)
    (listCount : Nat) : ((shown entries listCount).map Entry.key).Nodup := by
  rw [shown_eq_take, List.map_take]
  exact (nodup_keys_rank h).sublist (List.take_sublist _ _)

theorem pairwise_shown (entries : List Entry) (listCount : Nat) :
    (shown entries listCount).Pairwise fun left right => left.compare right ≠ .gt := by
  rw [shown_eq_take]
  exact (pairwise_rank entries).sublist (List.take_sublist _ _)

/-- With different keys, an entry that is left out goes behind every one that is shown. -/
theorem compare_left_out {entries : List Entry} (h : (entries.map Entry.key).Nodup)
    {listCount : Nat} {out entry : Entry} (hout : out ∈ entries)
    (absent : out ∉ shown entries listCount) (hentry : entry ∈ shown entries listCount) :
    out.compare entry = .gt := by
  have hsplit : shown entries listCount ++ (rank entries).drop (displayCount listCount) =
      rank entries := by
    rw [shown_eq_take, List.take_append_drop]
  have hrest : out ∈ (rank entries).drop (displayCount listCount) := by
    have hranked : out ∈ rank entries := (rank_perm entries).mem_iff.mpr hout
    rw [← hsplit] at hranked
    exact (List.mem_append.mp hranked).resolve_left absent
  have hkeys : entry.key ≠ out.key := by
    intro keys
    have heq := List.inj_on_of_nodup_map h (mem_of_mem_shown hentry) hout keys
    exact absent (heq ▸ hentry)
  have hordered := pairwise_rank entries
  rw [← hsplit] at hordered
  exact Entry.compare_eq_gt hkeys ((List.pairwise_append.mp hordered).2.2 entry hentry out hrest)

/-- Of two numbers of entries the smaller one shows the first entries of what the other shows. -/
theorem shown_isPrefix {entries : List Entry} {few many : Nat}
    (h : (shown entries few).length ≤ (shown entries many).length) :
    shown entries few <+: shown entries many := by
  have hfew : shown entries few <+: rank entries := by
    rw [shown_eq_take]
    exact List.take_prefix _ _
  have hmany : shown entries many <+: rank entries := by
    rw [shown_eq_take]
    exact List.take_prefix _ _
  exact List.prefix_of_prefix_length_le hfew hmany h

/-! ## Rankings of tables -/

variable {Delta State : Type}

/-- The entries of a table of differences, with a metric for every difference and an absolute
value looked up in a table of states. -/
def tableEntries (totals : Table Delta) (now : Table State) (metric : Delta → Binary64)
    (absolute : State → Int) : List Entry :=
  totals.entries.map fun entry =>
    { key := entry.1
      metric := metric entry.2
      tiebreak := ((now.get? entry.1).map absolute).getD 0 }

/-- What a report shows of a table of differences, given the entries to rank, what their metrics
say about the differences, and what their absolute values say about the current states. -/
structure Selects (totals : Table Delta) (now : Table State)
    (tells : SortMode → Delta → Binary64 → Prop) (holds : SortMode → State → Int → Prop)
    (entries : SortMode → List Entry) (ranked : RenderOptions → List Entry) : Prop where
  /-- There is one entry for every key of the table. -/
  keys : ∀ mode, (entries mode).map Entry.key = totals.keys
  /-- The place of an entry depends on the difference under its key and on the state there. -/
  values : ∀ mode, ∀ entry ∈ entries mode, ∃ delta state,
    totals.get? entry.key = some delta ∧ now.get? entry.key = some state ∧
      tells mode delta entry.metric ∧ holds mode state entry.tiebreak
  /-- As many entries are shown as are asked for, nine if none are. -/
  length : ∀ options, (ranked options).length =
    min totals.size (if options.listCount = 0 then 9 else options.listCount)
  shown : ∀ options, ∀ entry ∈ ranked options, entry ∈ entries options.sortMode
  distinct : ∀ options, ((ranked options).map Entry.key).Nodup
  ordered : ∀ options, (ranked options).Pairwise fun left right => left.compare right ≠ .gt
  /-- What is left out belongs behind everything that is shown. -/
  left_out : ∀ options, ∀ out ∈ entries options.sortMode, out ∉ ranked options →
    ∀ entry ∈ ranked options, out.compare entry = .gt
  /-- Asking for more entries shows more of the same ranking. -/
  extends_fewer : ∀ options listCount,
    let other := ranked { options with listCount := listCount }
    ranked options <+: other ∨ other <+: ranked options

/-- A ranking of a table whose keys are all in the table of states selects its first entries. -/
theorem selects_tableEntries {totals : Table Delta} {now : Table State}
    (metric : SortMode → Delta → Binary64) (absolute : SortMode → State → Int)
    {tells : SortMode → Delta → Binary64 → Prop} {holds : SortMode → State → Int → Prop}
    (present : ∀ key ∈ totals.keys, key ∈ now.keys)
    (htells : ∀ mode delta, tells mode delta (metric mode delta))
    (hholds : ∀ mode state, holds mode state (absolute mode state)) :
    Selects totals now tells holds
      (fun mode => tableEntries totals now (metric mode) (absolute mode))
      fun options => Ranking.shown
        (tableEntries totals now (metric options.sortMode) (absolute options.sortMode))
        options.listCount := by
  have hkeys : ∀ mode,
      (tableEntries totals now (metric mode) (absolute mode)).map Entry.key = totals.keys := by
    intro mode
    rw [tableEntries, List.map_map]
    rfl
  have hnodup : ∀ mode,
      ((tableEntries totals now (metric mode) (absolute mode)).map Entry.key).Nodup := by
    intro mode
    rw [hkeys]
    exact totals.nodup_keys
  refine ⟨hkeys, ?_, ?_, ?_, ?_, ?_, ?_, ?_⟩
  · intro mode entry hentry
    obtain ⟨⟨key, delta⟩, hdelta, rfl⟩ := List.mem_map.mp hentry
    have hget : totals.get? key = some delta := Table.get?_eq_some_iff.mpr hdelta
    have hkey : key ∈ totals.keys := Table.mem_keys_iff.mpr ⟨delta, hget⟩
    obtain ⟨state, hstate⟩ := Table.mem_keys_iff.mp (present key hkey)
    have htiebreak : ((now.get? key).map (absolute mode)).getD 0 = absolute mode state := by
      rw [hstate]
      rfl
    exact ⟨delta, state, hget, hstate, htells mode delta, htiebreak ▸ hholds mode state⟩
  · intro options
    rw [length_shown, tableEntries, List.length_map]
    rfl
  · exact fun options entry => mem_of_mem_shown
  · exact fun options => nodup_keys_shown (hnodup _) _
  · exact fun options => pairwise_shown _ _
  · exact fun options out hout absent entry => compare_left_out (hnodup _) hout absent
  · intro options listCount
    exact (Nat.le_total _ _).imp shown_isPrefix shown_isPrefix

/-! ## The reports -/

/-- Rankings are sorted, whatever is ranked, and the three reports that show a ranking select its
first entries. Namespaces are ranked by their time, or by their time per operation, and then by the
time that they have now. Databases are ranked by their lock times whatever the sort mode is, and
then by the times that their intent locks have now; or by their processor time or their document
units, and then by those that they have now. -/
theorem ranked_selects :
    (∀ entries, (rank entries).Perm entries ∧
      (rank entries).Pairwise fun left right => left.compare right ≠ .gt) ∧
    (∀ entries others, entries.Perm others → (entries.map Entry.key).Nodup →
      rank entries = rank others) ∧
    (∀ (current previous : NamespaceTop.Snapshot) (time : Time.Moment),
      let diff := current.diff previous time
      Selects diff.totals current.totals
        (fun mode delta number => number = match mode with
          | .total => .ofInt delta.total.time
          | .latency => .ofInt delta.total.time / .ofInt delta.total.count)
        (fun _ now value => value = now.total.time)
        diff.entries diff.ranked) ∧
    (∀ (current previous : LockUsage.Snapshot) (time : Time.Moment),
      let diff := current.diff previous time
      Selects diff.totals current.locks
        (fun _ delta number => FitsInt64 (delta.read + delta.write) →
          number = .ofInt (delta.read + delta.write))
        (fun _ now value =>
          FitsInt64 (now.timeLocked.intentRead + now.timeLocked.intentWrite) →
            value = now.timeLocked.intentRead + now.timeLocked.intentWrite)
        diff.entries diff.ranked) ∧
    ∀ (current previous : OperationMetrics.Snapshot) (time : Time.Moment),
      let diff := current.diff previous time
      let units := fun metrics : OperationMetrics.Metrics =>
        metrics.primary.documentUnits + metrics.secondary.documentUnits +
          metrics.documentUnitsWritten
      Selects diff.totals current.databases
        (fun mode delta number => match mode with
          | .total => number = .ofInt delta.processorTime
          | .latency => FitsInt64 (units delta) → number = .ofInt (units delta))
        (fun mode now value => match mode with
          | .total => value = now.processorTime
          | .latency => FitsInt64 (units now) → value = units now)
        diff.entries diff.ranked := by
  refine ⟨fun entries => ⟨rank_perm entries, pairwise_rank entries⟩,
    fun _ _ => rank_eq_of_perm, ?_, ?_, ?_⟩
  · intro current previous time
    refine selects_tableEntries NamespaceTop.metric
      (fun _ (now : NamespaceTop.Activity) => now.total.time)
      (fun key hkey => (Table.mem_keys_join_iff.mp hkey).2) ?_ fun mode now => rfl
    intro mode delta
    cases mode with
    | total => rfl
    | latency => rfl
  · intro current previous time
    have htotal : ∀ times : LockUsage.LockTimes, FitsInt64 (times.read + times.write) →
        times.total = times.read + times.write := fun times hfits => wrapInt64_eq_self hfits
    refine selects_tableEntries (fun _ (times : LockUsage.LockTimes) => .ofInt times.total)
      (fun _ => LockUsage.Statistics.intentTotal)
      (fun key hkey => (Table.mem_keys_join_iff.mp hkey).2) ?_ ?_
    · exact fun mode delta hfits => congrArg Binary64.ofInt (htotal delta hfits)
    · exact fun mode now hfits => wrapInt64_eq_self hfits
  · intro current previous time diff units
    have hvalue : ∀ metrics, FitsInt64 (units metrics) →
        OperationMetrics.sortValue .latency metrics = units metrics :=
      fun metrics hfits => wrapInt64_eq_self hfits
    refine selects_tableEntries
      (fun mode metrics => .ofInt (OperationMetrics.sortValue mode metrics))
      OperationMetrics.sortValue (fun key hkey => (Table.mem_keys_join_iff.mp hkey).2) ?_ ?_
    · intro mode delta
      cases mode with
      | total => rfl
      | latency =>
        intro hfits
        rw [hvalue delta hfits]
    · intro mode now
      cases mode with
      | total => rfl
      | latency => exact hvalue now

end LoadWatch.Ranking
