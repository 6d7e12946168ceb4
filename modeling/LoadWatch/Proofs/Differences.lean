/-
  Proofs/Differences.lean --- a difference is an inner join.

  WHAT THIS FILE IS FOR.  Three reports compare two snapshots key by key.  What
  such a difference holds is said field by field, for every report on its own
  (`NamespaceTop.IsDelta`, `LockUsage.IsDelta`, `OperationMetrics.IsDelta`), so
  that a field taken from the wrong place would show; what the three have in
  common is said once (`InnerJoin`).

  Times are cut down to milliseconds.  Cutting off is described without division
  (`Truncated`), and there is only one number that fits (`truncated_iff`).

  Main result: `diff_innerJoin`.
-/
import LoadWatch.LockUsage
import LoadWatch.NamespaceTop
import LoadWatch.OperationMetrics
import LoadWatch.Proofs.Tables

set_option autoImplicit false

namespace LoadWatch

/-! ## Cutting off -/

/-- The quotient of an amount and a divisor, without its fraction: the nearest multiple of the
divisor that is not farther from zero than the amount. -/
structure Truncated (amount divisor quotient : Int) : Prop where
  toward_zero : (quotient * divisor).natAbs ≤ amount.natAbs
  near : (amount - quotient * divisor).natAbs < divisor.natAbs

theorem truncated_tdiv (amount : Int) {divisor : Int} (hdivisor : divisor ≠ 0) :
    Truncated amount divisor (amount.tdiv divisor) := by
  have hmultiple : amount.tdiv divisor * divisor = amount - amount.tmod divisor :=
    Int.tdiv_mul_self amount divisor
  have hrest : (amount.tmod divisor).natAbs = amount.natAbs % divisor.natAbs :=
    Int.natAbs_tmod amount divisor
  have hle : amount.natAbs % divisor.natAbs ≤ amount.natAbs := Nat.mod_le _ _
  have hlt : amount.natAbs % divisor.natAbs < divisor.natAbs :=
    Nat.mod_lt _ (Int.natAbs_pos.mpr hdivisor)
  constructor
  · rw [hmultiple]
    rcases Int.le_total 0 amount with hsign | hsign
    · have hnonneg := Int.tmod_nonneg divisor hsign
      omega
    · have hnonpos : amount.tmod divisor ≤ 0 := by
        have hneg := Int.tmod_nonneg divisor (Int.neg_nonneg_of_nonpos hsign)
        rw [Int.neg_tmod] at hneg
        omega
      omega
  · rw [hmultiple]
    omega

/-- Two multiples of a divisor that are less than two divisors apart are equal or neighbours. -/
theorem eq_or_neighbour {left right divisor : Int}
    (h : (left * divisor - right * divisor).natAbs < 2 * divisor.natAbs) :
    left = right ∨ left = right + 1 ∨ left = right - 1 := by
  rw [← Int.sub_mul, Int.natAbs_mul] at h
  have hlt : (left - right).natAbs < 2 := Nat.lt_of_mul_lt_mul_right h
  omega

/-- Only one number is the quotient without its fraction. -/
theorem truncated_iff {amount divisor quotient : Int} (hdivisor : divisor ≠ 0) :
    Truncated amount divisor quotient ↔ quotient = amount.tdiv divisor := by
  constructor
  · intro h
    have htdiv := truncated_tdiv amount hdivisor
    generalize amount.tdiv divisor = expected at htdiv ⊢
    have hclose : (quotient * divisor - expected * divisor).natAbs < 2 * divisor.natAbs := by
      have := h.near
      have := htdiv.near
      omega
    obtain ⟨htoward, hnear⟩ := h
    obtain ⟨htoward', hnear'⟩ := htdiv
    rcases eq_or_neighbour hclose with rfl | rfl | rfl
    · rfl
    · rw [Int.add_mul, Int.one_mul] at hnear htoward
      omega
    · rw [Int.sub_mul, Int.one_mul] at hnear htoward
      omega
  · rintro rfl
    exact truncated_tdiv amount hdivisor

/-! ## Joining -/

/-- A table of differences has exactly the keys of both tables, each once and with the difference
of what they hold under it. -/
structure InnerJoin {State Delta : Type} (current previous : Table State) (totals : Table Delta)
    (IsDelta : (now before : State) → Delta → Prop) : Prop where
  distinct : totals.keys.Nodup
  keys : ∀ key, key ∈ totals.keys ↔ key ∈ current.keys ∧ key ∈ previous.keys
  deltas : ∀ key now before, current.get? key = some now → previous.get? key = some before →
    ∃ delta, totals.get? key = some delta ∧ IsDelta now before delta

/-- A join of the previous table with the current one is an inner join. -/
theorem innerJoin_join {State Delta : Type} {current previous : Table State}
    {since : State → State → Delta} {IsDelta : (now before : State) → Delta → Prop}
    (exact_since : ∀ now before, IsDelta now before (since now before)) :
    InnerJoin current previous (previous.join (fun before now => since now before) current)
      IsDelta := by
  refine ⟨Table.nodup_keys _, fun key => ?_, fun key now before hnow hbefore => ?_⟩
  · rw [Table.mem_keys_join_iff]
    exact And.comm
  · exact ⟨since now before, Table.get?_join hbefore hnow, exact_since now before⟩

/-- The time between two snapshots, to the nanosecond and in whole milliseconds. -/
structure IsElapsed (current previous : Time.Moment) (elapsed : Time.Span) : Prop where
  nanos : elapsed.nanos = current.nanos - previous.nanos
  millis : Truncated (current.nanos - previous.nanos) 1000000 elapsed.millis

theorem isElapsed_since (current previous : Time.Moment) :
    IsElapsed current previous (current.since previous) :=
  ⟨rfl, (truncated_iff (by decide)).mpr rfl⟩

/-! ## The differences of the reports -/

namespace NamespaceTop

/-- The difference of two usages. -/
structure Usage.IsDelta (now before delta : Usage) : Prop where
  time : Truncated (now.time - before.time) 1000 delta.time
  count : delta.count = now.count - before.count

/-- The difference of what two snapshots say about a namespace. -/
structure IsDelta (now before delta : Activity) : Prop where
  total : Usage.IsDelta now.total before.total delta.total
  read : Usage.IsDelta now.read before.read delta.read
  write : Usage.IsDelta now.write before.write delta.write

theorem Usage.isDelta_since (now before : Usage) : Usage.IsDelta now before (now.since before) :=
  ⟨(truncated_iff (by decide)).mpr rfl, rfl⟩

theorem isDelta_since (now before : Activity) : IsDelta now before (now.since before) :=
  ⟨Usage.isDelta_since .., Usage.isDelta_since .., Usage.isDelta_since ..⟩

end NamespaceTop

namespace LockUsage

/-- The difference of what two snapshots say about a database. -/
structure IsDelta (now before : Statistics) (delta : LockTimes) : Prop where
  read : Truncated ((now.timeLocked.read + now.timeLocked.intentRead) -
    (before.timeLocked.read + before.timeLocked.intentRead)) 1000 delta.read
  write : Truncated ((now.timeLocked.write + now.timeLocked.intentWrite) -
    (before.timeLocked.write + before.timeLocked.intentWrite)) 1000 delta.write

theorem isDelta_since (now before : Statistics) : IsDelta now before (now.since before) :=
  ⟨(truncated_iff (by decide)).mpr rfl, (truncated_iff (by decide)).mpr rfl⟩

end LockUsage

namespace OperationMetrics

/-- The difference of what was read on the members of one kind. -/
structure Reads.IsDelta (now before delta : Reads) : Prop where
  documentBytes : delta.documentBytes = now.documentBytes - before.documentBytes
  documentUnits : delta.documentUnits = now.documentUnits - before.documentUnits
  indexBytes : delta.indexBytes = now.indexBytes - before.indexBytes
  indexUnits : delta.indexUnits = now.indexUnits - before.indexUnits
  keysSorted : delta.keysSorted = now.keysSorted - before.keysSorted
  sorterSpills : delta.sorterSpills = now.sorterSpills - before.sorterSpills
  unitsReturned : delta.unitsReturned = now.unitsReturned - before.unitsReturned
  cursorSeeks : delta.cursorSeeks = now.cursorSeeks - before.cursorSeeks

/-- The difference of the metrics of a database. -/
structure IsDelta (now before delta : Metrics) : Prop where
  primary : Reads.IsDelta now.primary before.primary delta.primary
  secondary : Reads.IsDelta now.secondary before.secondary delta.secondary
  documentBytesWritten :
    delta.documentBytesWritten = now.documentBytesWritten - before.documentBytesWritten
  documentUnitsWritten :
    delta.documentUnitsWritten = now.documentUnitsWritten - before.documentUnitsWritten
  indexBytesWritten : delta.indexBytesWritten = now.indexBytesWritten - before.indexBytesWritten
  indexUnitsWritten : delta.indexUnitsWritten = now.indexUnitsWritten - before.indexUnitsWritten
  processorTime : delta.processorTime = now.processorTime - before.processorTime

theorem Reads.isDelta_since (now before : Reads) : Reads.IsDelta now before (now.since before) :=
  ⟨rfl, rfl, rfl, rfl, rfl, rfl, rfl, rfl⟩

theorem isDelta_since (now before : Metrics) : IsDelta now before (now.since before) :=
  ⟨Reads.isDelta_since .., Reads.isDelta_since .., rfl, rfl, rfl, rfl, rfl⟩

end OperationMetrics

/-- The difference of two snapshots is the inner join of what they hold, over the time between
them; the number of cores is that of the earlier snapshot. -/
theorem diff_innerJoin (time : Time.Moment) :
    (∀ current previous : NamespaceTop.Snapshot,
      let diff := current.diff previous time
      InnerJoin current.totals previous.totals diff.totals NamespaceTop.IsDelta ∧
        IsElapsed current.time previous.time diff.elapsed ∧ diff.cores = previous.cores) ∧
    (∀ current previous : LockUsage.Snapshot,
      let diff := current.diff previous time
      InnerJoin current.locks previous.locks diff.totals LockUsage.IsDelta ∧
        IsElapsed current.time previous.time diff.elapsed) ∧
    ∀ current previous : OperationMetrics.Snapshot,
      let diff := current.diff previous time
      InnerJoin current.databases previous.databases diff.totals OperationMetrics.IsDelta ∧
        IsElapsed current.time previous.time diff.elapsed ∧ diff.cores = previous.cores := by
  refine ⟨?_, ?_, ?_⟩
  · intro current previous
    exact ⟨innerJoin_join NamespaceTop.isDelta_since, isElapsed_since _ _, rfl⟩
  · intro current previous
    exact ⟨innerJoin_join LockUsage.isDelta_since, isElapsed_since _ _⟩
  · intro current previous
    exact ⟨innerJoin_join OperationMetrics.isDelta_since, isElapsed_since _ _, rfl⟩

end LoadWatch
