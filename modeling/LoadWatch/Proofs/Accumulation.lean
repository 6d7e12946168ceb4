/-
  Proofs/Accumulation.lean --- differences add up.

  WHAT THIS FILE IS FOR.  A server is watched over many samples, and each line
  that is shown is about two of them.  Here the lines are put together again: the
  differences of the neighbours in a chain of snapshots are compared with the
  difference of its ends, and a difference with the one of its sides swapped.

  Counters telescope, so plain differences add up exactly (`addUp_deltas`).
  Times are cut down to milliseconds one by one, and cutting does not distribute
  over sums; but a sum that is cut is never more than one away from the sum of
  its cut parts (`cut_add_near`), whatever signs these have.  Every join of two
  parts can cost one unit, which is one less than there are parts
  (`nearlyAddUp_cut`).

  Main result: `differences_fitTogether`.
-/
import Mathlib.Algebra.BigOperators.Intervals
import LoadWatch.Proofs.Differences

set_option autoImplicit false

namespace LoadWatch

/-! ## Sums of differences -/

/-- Parts add up to the whole. -/
def AddUp (parts : Nat → Int) (count : Nat) (whole : Int) : Prop :=
  ∑ index ∈ Finset.range count, parts index = whole

/-- Parts add up to the whole, but for one unit for every part after the first. -/
def NearlyAddUp (parts : Nat → Int) (count : Nat) (whole : Int) : Prop :=
  ((∑ index ∈ Finset.range count, parts index) - whole).natAbs ≤ count - 1

/-- The differences of the neighbours in a chain add up to the difference of its ends. -/
theorem addUp_deltas (amounts : Nat → Int) (count : Nat) :
    AddUp (fun index => amounts (index + 1) - amounts index) count (amounts count - amounts 0) :=
  Finset.sum_range_sub amounts count

/-- A sum that is cut off is at most one away from the sum of its parts that are cut off. -/
theorem cut_add_near (first second : Int) {divisor : Int} (hdivisor : divisor ≠ 0) :
    (first.tdiv divisor + second.tdiv divisor - (first + second).tdiv divisor).natAbs ≤ 1 := by
  obtain ⟨hfirst, hfirst'⟩ := truncated_tdiv first hdivisor
  obtain ⟨hsecond, hsecond'⟩ := truncated_tdiv second hdivisor
  obtain ⟨hsum, hsum'⟩ := truncated_tdiv (first + second) hdivisor
  have hclose : ((first.tdiv divisor + second.tdiv divisor) * divisor -
      (first + second).tdiv divisor * divisor).natAbs < 2 * divisor.natAbs := by
    rw [Int.add_mul]
    omega
  rcases eq_or_neighbour hclose with h | h | h
  · omega
  · omega
  · omega

/-- The sum of differences that are cut off one by one is as many units away from the difference
of the ends as there are joins between them, or fewer. -/
theorem sum_cut_near (amounts : Nat → Int) (joins : Nat) {divisor : Int}
    (hdivisor : divisor ≠ 0) :
    ((∑ index ∈ Finset.range (joins + 1), (amounts (index + 1) - amounts index).tdiv divisor) -
      (amounts (joins + 1) - amounts 0).tdiv divisor).natAbs ≤ joins := by
  induction joins with
  | zero => simp
  | succ joins ih =>
    have hjoin := cut_add_near (amounts (joins + 1) - amounts 0)
      (amounts (joins + 1 + 1) - amounts (joins + 1)) hdivisor
    have hends : amounts (joins + 1) - amounts 0 +
        (amounts (joins + 1 + 1) - amounts (joins + 1)) =
        amounts (joins + 1 + 1) - amounts 0 := by omega
    rw [hends] at hjoin
    rw [Finset.sum_range_succ]
    omega

/-- Differences that are cut off one by one nearly add up. -/
theorem nearlyAddUp_cut (amounts : Nat → Int) (count : Nat) {divisor : Int}
    (hdivisor : divisor ≠ 0) :
    NearlyAddUp (fun index => (amounts (index + 1) - amounts index).tdiv divisor) count
      ((amounts count - amounts 0).tdiv divisor) := by
  cases count with
  | zero => simp [NearlyAddUp]
  | succ joins => exact sum_cut_near amounts joins hdivisor

/-! ## Chains of tables -/

/-- What the differences of tables say about a chain of them: under a key of all the tables, the
differences of neighbours add up to the difference of the ends. -/
def Accumulates {State Delta : Type} (tables : Nat → Table State)
    (difference : (later earlier : Nat) → Table Delta)
    (AddUp : (Nat → Delta) → Nat → Delta → Prop) : Prop :=
  ∀ (count : Nat) (key : String), (∀ index ≤ count, key ∈ (tables index).keys) →
    ∃ (parts : Nat → Delta) (whole : Delta),
      (∀ index < count, (difference (index + 1) index).get? key = some (parts index)) ∧
      (difference count 0).get? key = some whole ∧ AddUp parts count whole

/-- Joins accumulate as the differences of what the tables hold do. -/
theorem accumulates_join {State Delta : Type} (tables : Nat → Table State)
    {since : State → State → Delta} {AddUp : (Nat → Delta) → Nat → Delta → Prop}
    (addUp_since : ∀ (states : Nat → State) (count : Nat),
      AddUp (fun index => since (states (index + 1)) (states index)) count
        (since (states count) (states 0))) :
    Accumulates tables
      (fun later earlier =>
        (tables earlier).join (fun before now => since now before) (tables later)) AddUp := by
  intro count key present
  obtain ⟨first, hfirst⟩ := Table.mem_keys_iff.mp (present 0 (Nat.zero_le count))
  let states : Nat → State := fun index => ((tables index).get? key).getD first
  have hstates : ∀ index ≤ count, (tables index).get? key = some (states index) := by
    intro index hindex
    obtain ⟨state, hstate⟩ := Table.mem_keys_iff.mp (present index hindex)
    simp [states, hstate]
  refine ⟨_, _, fun index hindex => ?_, ?_, addUp_since states count⟩
  · exact Table.get?_join (hstates index (Nat.le_of_lt hindex)) (hstates (index + 1) hindex)
  · exact Table.get?_join (hstates 0 (Nat.zero_le count)) (hstates count (Nat.le_refl count))

/-! ## Swapped sides -/

/-- Two tables of differences with their sides swapped: they have the same keys, and opposite
differences under them. -/
structure Opposite {Delta : Type} [Neg Delta] (forth back : Table Delta) : Prop where
  keys : ∀ key, key ∈ forth.keys ↔ key ∈ back.keys
  deltas : ∀ key delta, forth.get? key = some delta → back.get? key = some (-delta)

/-- Joins with their sides swapped are opposite if the differences of what the tables hold are. -/
theorem opposite_join {State Delta : Type} [Neg Delta] (left right : Table State)
    {since : State → State → Delta}
    (since_swap : ∀ now before, since before now = -since now before) :
    Opposite (right.join (fun before now => since now before) left)
      (left.join (fun before now => since now before) right) := by
  refine ⟨fun key => ?_, fun key delta h => ?_⟩
  · rw [Table.mem_keys_join_iff, Table.mem_keys_join_iff]
    exact And.comm
  · obtain ⟨before, now, hbefore, hnow, rfl⟩ := Table.mem_join_iff.mp h
    rw [← since_swap]
    exact Table.get?_join hnow hbefore

/-- Cutting off is the same on both sides of zero. -/
theorem cut_swap (now before divisor : Int) :
    (before - now).tdiv divisor = -(now - before).tdiv divisor := by
  rw [← Int.neg_sub, Int.neg_tdiv]

/-- Two lengths of time that are opposite, to the nanosecond and in whole milliseconds. -/
structure OppositeSpans (forth back : Time.Span) : Prop where
  nanos : back.nanos = -forth.nanos
  millis : back.millis = -forth.millis

theorem oppositeSpans_since (left right : Time.Moment) :
    OppositeSpans (left.since right) (right.since left) :=
  ⟨(Int.neg_sub left.nanos right.nanos).symm, cut_swap left.nanos right.nanos 1000000⟩

/-! ## Differences of snapshots -/

/-- The differences of snapshots fit together: those of neighbours add up over every chain, and
swapping the sides gives the opposite. -/
structure FitTogether {Snapshot Diff State Delta : Type} [Neg Delta]
    (diff : (current previous : Snapshot) → Time.Moment → Diff) (states : Snapshot → Table State)
    (totals : Diff → Table Delta) (elapsed : Diff → Time.Span)
    (AddUp : (Nat → Delta) → Nat → Delta → Prop) : Prop where
  accumulate : ∀ (snapshots : Nat → Snapshot) (clock : Nat → Nat → Time.Moment),
    Accumulates (fun index => states (snapshots index))
      (fun later earlier =>
        totals (diff (snapshots later) (snapshots earlier) (clock later earlier))) AddUp
  opposite : ∀ left right time time',
    Opposite (totals (diff left right time)) (totals (diff right left time'))
  elapsed : ∀ left right time time',
    OppositeSpans (elapsed (diff left right time)) (elapsed (diff right left time'))

/-- Differences that are joins fit together if the differences of what the snapshots hold do. -/
theorem fitTogether_join {Snapshot Diff State Delta : Type} [Neg Delta]
    {diff : (current previous : Snapshot) → Time.Moment → Diff} {states : Snapshot → Table State}
    {totals : Diff → Table Delta} {elapsed : Diff → Time.Span} {moment : Snapshot → Time.Moment}
    {since : State → State → Delta} {AddUp : (Nat → Delta) → Nat → Delta → Prop}
    (totals_diff : ∀ current previous time, totals (diff current previous time) =
      (states previous).join (fun before now => since now before) (states current))
    (elapsed_diff : ∀ current previous time, elapsed (diff current previous time) =
      (moment current).since (moment previous))
    (addUp_since : ∀ (states : Nat → State) (count : Nat),
      AddUp (fun index => since (states (index + 1)) (states index)) count
        (since (states count) (states 0)))
    (since_swap : ∀ now before, since before now = -since now before) :
    FitTogether diff states totals elapsed AddUp where
  accumulate snapshots clock := by
    simp only [totals_diff]
    exact accumulates_join (fun index => states (snapshots index)) addUp_since
  opposite left right time time' := by
    rw [totals_diff, totals_diff]
    exact opposite_join (states left) (states right) since_swap
  elapsed left right time time' := by
    rw [elapsed_diff, elapsed_diff]
    exact oppositeSpans_since (moment left) (moment right)

/-! ## The differences of the reports -/

namespace NamespaceTop

/-- Usages add up: their counts do, and their times nearly. -/
structure Usage.AddUp (parts : Nat → Usage) (count : Nat) (whole : Usage) : Prop where
  time : NearlyAddUp (fun index => (parts index).time) count whole.time
  count : LoadWatch.AddUp (fun index => (parts index).count) count whole.count

/-- Usages of a namespace add up. -/
structure AddUp (parts : Nat → Activity) (count : Nat) (whole : Activity) : Prop where
  total : Usage.AddUp (fun index => (parts index).total) count whole.total
  read : Usage.AddUp (fun index => (parts index).read) count whole.read
  write : Usage.AddUp (fun index => (parts index).write) count whole.write

instance : Neg Usage := ⟨fun usage => ⟨-usage.time, -usage.count⟩⟩

instance : Neg Activity := ⟨fun activity => ⟨-activity.total, -activity.read, -activity.write⟩⟩

theorem Usage.addUp_since (usages : Nat → Usage) (count : Nat) :
    Usage.AddUp (fun index => (usages (index + 1)).since (usages index)) count
      ((usages count).since (usages 0)) :=
  ⟨nearlyAddUp_cut (fun index => (usages index).time) count (by decide),
    addUp_deltas (fun index => (usages index).count) count⟩

theorem addUp_since (activities : Nat → Activity) (count : Nat) :
    AddUp (fun index => (activities (index + 1)).since (activities index)) count
      ((activities count).since (activities 0)) :=
  ⟨Usage.addUp_since (fun index => (activities index).total) count,
    Usage.addUp_since (fun index => (activities index).read) count,
    Usage.addUp_since (fun index => (activities index).write) count⟩

theorem Usage.since_swap (now before : Usage) : before.since now = -now.since before :=
  congrArg₂ Usage.mk (cut_swap _ _ _) (Int.neg_sub _ _).symm

theorem since_swap (now before : Activity) : before.since now = -now.since before := by
  show Activity.mk _ _ _ = Activity.mk _ _ _
  rw [Usage.since_swap now.total, Usage.since_swap now.read, Usage.since_swap now.write]
  rfl

end NamespaceTop

namespace LockUsage

/-- Lock times nearly add up. -/
structure AddUp (parts : Nat → LockTimes) (count : Nat) (whole : LockTimes) : Prop where
  read : NearlyAddUp (fun index => (parts index).read) count whole.read
  write : NearlyAddUp (fun index => (parts index).write) count whole.write

instance : Neg LockTimes := ⟨fun times => ⟨-times.read, -times.write⟩⟩

theorem addUp_since (statistics : Nat → Statistics) (count : Nat) :
    AddUp (fun index => (statistics (index + 1)).since (statistics index)) count
      ((statistics count).since (statistics 0)) :=
  ⟨nearlyAddUp_cut (fun index => (statistics index).timeLocked.readTotal) count (by decide),
    nearlyAddUp_cut (fun index => (statistics index).timeLocked.writeTotal) count (by decide)⟩

theorem since_swap (now before : Statistics) : before.since now = -now.since before :=
  congrArg₂ LockTimes.mk (cut_swap _ _ _) (cut_swap _ _ _)

end LockUsage

namespace OperationMetrics

/-- What was read adds up. -/
structure Reads.AddUp (parts : Nat → Reads) (count : Nat) (whole : Reads) : Prop where
  documentBytes : LoadWatch.AddUp (fun index => (parts index).documentBytes) count
    whole.documentBytes
  documentUnits : LoadWatch.AddUp (fun index => (parts index).documentUnits) count
    whole.documentUnits
  indexBytes : LoadWatch.AddUp (fun index => (parts index).indexBytes) count whole.indexBytes
  indexUnits : LoadWatch.AddUp (fun index => (parts index).indexUnits) count whole.indexUnits
  keysSorted : LoadWatch.AddUp (fun index => (parts index).keysSorted) count whole.keysSorted
  sorterSpills : LoadWatch.AddUp (fun index => (parts index).sorterSpills) count
    whole.sorterSpills
  unitsReturned : LoadWatch.AddUp (fun index => (parts index).unitsReturned) count
    whole.unitsReturned
  cursorSeeks : LoadWatch.AddUp (fun index => (parts index).cursorSeeks) count whole.cursorSeeks

/-- The metrics of a database add up. -/
structure AddUp (parts : Nat → Metrics) (count : Nat) (whole : Metrics) : Prop where
  primary : Reads.AddUp (fun index => (parts index).primary) count whole.primary
  secondary : Reads.AddUp (fun index => (parts index).secondary) count whole.secondary
  documentBytesWritten : LoadWatch.AddUp (fun index => (parts index).documentBytesWritten) count
    whole.documentBytesWritten
  documentUnitsWritten : LoadWatch.AddUp (fun index => (parts index).documentUnitsWritten) count
    whole.documentUnitsWritten
  indexBytesWritten : LoadWatch.AddUp (fun index => (parts index).indexBytesWritten) count
    whole.indexBytesWritten
  indexUnitsWritten : LoadWatch.AddUp (fun index => (parts index).indexUnitsWritten) count
    whole.indexUnitsWritten
  processorTime : LoadWatch.AddUp (fun index => (parts index).processorTime) count
    whole.processorTime

instance : Neg Reads where
  neg reads := ⟨-reads.documentBytes, -reads.documentUnits, -reads.indexBytes, -reads.indexUnits,
    -reads.keysSorted, -reads.sorterSpills, -reads.unitsReturned, -reads.cursorSeeks⟩

instance : Neg Metrics where
  neg metrics := ⟨-metrics.primary, -metrics.secondary, -metrics.documentBytesWritten,
    -metrics.documentUnitsWritten, -metrics.indexBytesWritten, -metrics.indexUnitsWritten,
    -metrics.processorTime⟩

theorem Reads.addUp_since (reads : Nat → Reads) (count : Nat) :
    Reads.AddUp (fun index => (reads (index + 1)).since (reads index)) count
      ((reads count).since (reads 0)) where
  documentBytes := addUp_deltas (fun index => (reads index).documentBytes) count
  documentUnits := addUp_deltas (fun index => (reads index).documentUnits) count
  indexBytes := addUp_deltas (fun index => (reads index).indexBytes) count
  indexUnits := addUp_deltas (fun index => (reads index).indexUnits) count
  keysSorted := addUp_deltas (fun index => (reads index).keysSorted) count
  sorterSpills := addUp_deltas (fun index => (reads index).sorterSpills) count
  unitsReturned := addUp_deltas (fun index => (reads index).unitsReturned) count
  cursorSeeks := addUp_deltas (fun index => (reads index).cursorSeeks) count

theorem addUp_since (metrics : Nat → Metrics) (count : Nat) :
    AddUp (fun index => (metrics (index + 1)).since (metrics index)) count
      ((metrics count).since (metrics 0)) where
  primary := Reads.addUp_since (fun index => (metrics index).primary) count
  secondary := Reads.addUp_since (fun index => (metrics index).secondary) count
  documentBytesWritten := addUp_deltas (fun index => (metrics index).documentBytesWritten) count
  documentUnitsWritten := addUp_deltas (fun index => (metrics index).documentUnitsWritten) count
  indexBytesWritten := addUp_deltas (fun index => (metrics index).indexBytesWritten) count
  indexUnitsWritten := addUp_deltas (fun index => (metrics index).indexUnitsWritten) count
  processorTime := addUp_deltas (fun index => (metrics index).processorTime) count

theorem Reads.since_swap (now before : Reads) : before.since now = -now.since before := by
  show Reads.mk _ _ _ _ _ _ _ _ = Reads.mk _ _ _ _ _ _ _ _
  simp only [Reads.since, Int.neg_sub]

theorem since_swap (now before : Metrics) : before.since now = -now.since before := by
  show Metrics.mk _ _ _ _ _ _ _ = Metrics.mk _ _ _ _ _ _ _
  simp only [Metrics.since, Int.neg_sub, Reads.since_swap now.primary,
    Reads.since_swap now.secondary]

/-- The document units of a difference are those of the later metrics less those of the earlier
ones: the units read, and all units. -/
structure UnitsAreDelta (now before delta : Metrics) : Prop where
  unitsRead : delta.unitsRead = now.unitsRead - before.unitsRead
  totalUnits : delta.totalUnits = now.totalUnits - before.totalUnits

theorem unitsAreDelta_since (now before : Metrics) :
    UnitsAreDelta now before (now.since before) := by
  refine ⟨?_, totalUnits_since now before⟩
  simp only [Metrics.unitsRead, Metrics.since, Reads.since]
  omega

end OperationMetrics

/-- In the three reports with tables the differences of snapshots fit together: counts add up
exactly over a chain, and times, which are cut down to milliseconds, up to one millisecond for
every difference after the first. The document units of a difference are the difference of the
document units. -/
theorem differences_fitTogether :
    FitTogether NamespaceTop.Snapshot.diff NamespaceTop.Snapshot.totals NamespaceTop.Diff.totals
      NamespaceTop.Diff.elapsed NamespaceTop.AddUp ∧
    FitTogether LockUsage.Snapshot.diff LockUsage.Snapshot.locks LockUsage.Diff.totals
      LockUsage.Diff.elapsed LockUsage.AddUp ∧
    FitTogether OperationMetrics.Snapshot.diff OperationMetrics.Snapshot.databases
      OperationMetrics.Diff.totals OperationMetrics.Diff.elapsed OperationMetrics.AddUp ∧
    ∀ (current previous : OperationMetrics.Snapshot) (time : Time.Moment),
      InnerJoin current.databases previous.databases (current.diff previous time).totals
        OperationMetrics.UnitsAreDelta := by
  refine ⟨?_, ?_, ?_, ?_⟩
  · exact fitTogether_join (fun _ _ _ => rfl) (fun _ _ _ => rfl) NamespaceTop.addUp_since
      NamespaceTop.since_swap
  · exact fitTogether_join (fun _ _ _ => rfl) (fun _ _ _ => rfl) LockUsage.addUp_since
      LockUsage.since_swap
  · exact fitTogether_join (fun _ _ _ => rfl) (fun _ _ _ => rfl) OperationMetrics.addUp_since
      OperationMetrics.since_swap
  · intro current previous time
    exact innerJoin_join OperationMetrics.unitsAreDelta_since

/-- Snapshots a second apart of a database whose read lock is held 600 microseconds longer each
time. -/
def steadyReads (index : Nat) : LockUsage.Snapshot where
  time := ⟨1000000000 * index, 0⟩
  locks := ⟨[("orders", { timeLocked := { read := 600 * index } })], List.pairwise_singleton _ _⟩

/-- Three differences of 600 microseconds show nothing, and the one from end to end shows one
millisecond; that is within the two milliseconds that three differences may lose. -/
theorem steadyReads_accumulate :
    (∀ index ≤ 3, "orders" ∈ (steadyReads index).locks.keys) ∧
    ∃ (parts : Nat → LockUsage.LockTimes) (whole : LockUsage.LockTimes),
      (∀ index < 3, ((steadyReads (index + 1)).diff (steadyReads index)
        (steadyReads (index + 1)).time).totals.get? "orders" = some (parts index)) ∧
      ((steadyReads 3).diff (steadyReads 0) (steadyReads 3).time).totals.get? "orders" =
        some whole ∧
      LockUsage.AddUp parts 3 whole ∧ whole.read = 1 ∧ ∀ index < 3, (parts index).read = 0 := by
  have present : ∀ index ≤ 3, "orders" ∈ (steadyReads index).locks.keys := by
    intro index hindex
    exact List.mem_singleton_self _
  obtain ⟨parts, whole, hparts, hwhole, addUp⟩ := differences_fitTogether.2.1.accumulate
    steadyReads (fun later _ => (steadyReads later).time) 3 "orders" present
  have hstep : ∀ index < 3, ((steadyReads (index + 1)).diff (steadyReads index)
      (steadyReads (index + 1)).time).totals.get? "orders" = some ⟨0, 0⟩ := by decide
  have hends : ((steadyReads 3).diff (steadyReads 0) (steadyReads 3).time).totals.get? "orders" =
      some ⟨1, 0⟩ := by decide
  refine ⟨present, parts, whole, hparts, hwhole, addUp, ?_, ?_⟩
  · rw [hends] at hwhole
    cases hwhole
    rfl
  · intro index hindex
    have hpart := hparts index hindex
    rw [hstep index hindex] at hpart
    rw [← Option.some.inj hpart]

end LoadWatch
