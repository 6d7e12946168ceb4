/-
  Proofs/ExactRanking.lean --- ranking by numbers is ranking by integers.

  WHAT THIS FILE IS FOR.  Reports turn integers into binary numbers and order
  their entries by these.  Here it is shown what becomes of the order of the
  integers.

  While a metric is an integer that numbers have room for, the comparison of
  entries is that of the integers themselves, of the current values and of the
  keys (`compare_eq_lt_iff`), and so the reports show the first keys in the
  descending order of exact integers.  The time per operation is a quotient, and
  is rounded; the order it gives is told by groups of namespaces
  (`NamespaceTop.latencyGroup`), which no rounding can mix up.

  Both follow from one fact: what holds of two entries whenever one goes before
  the other holds all along the ranking (`ranksBy_of_compare`).

  Main result: `rankings_exact`.
-/
import Mathlib.Data.Prod.Lex
import Mathlib.Data.Rat.Cast.Order
import LoadWatch.Proofs.ExactNumbers
import LoadWatch.Proofs.Selection

set_option autoImplicit false

namespace LoadWatch.Ranking

open Binary64 (FitsSignificand)

variable {Delta State : Type}

/-- The value under a key, zero if there is none. -/
def valueAt (table : Table State) (value : State → Int) (key : String) : Int :=
  ((table.get? key).map value).getD 0

theorem valueAt_of_get? {table : Table State} {key : String} {state : State}
    (h : table.get? key = some state) (value : State → Int) :
    valueAt table value key = value state := by
  rw [valueAt, h]
  rfl

/-! ## What a ranking is in order of -/

/-- With a sort mode, a report has one order of all keys of a table in which any two keys are as
described, and shows the first keys of it: as many as are asked for, nine if none are. -/
def RanksBy (before : String → String → Prop) (totals : Table Delta) (mode : SortMode)
    (ranked : RenderOptions → List Entry) : Prop :=
  ∃ names : List String, names.Perm totals.keys ∧ names.Pairwise before ∧
    ∀ options, options.sortMode = mode → (ranked options).map Entry.key =
      names.take (if options.listCount = 0 then 9 else options.listCount)

/-- Of two entries with different keys the first one in a ranking goes strictly before. -/
theorem pairwise_rank_lt {entries : List Entry} (h : (entries.map Entry.key).Nodup) :
    (rank entries).Pairwise fun left right => left.compare right = .lt := by
  have hkeys : (rank entries).Pairwise fun left right => left.key ≠ right.key :=
    List.pairwise_map.mp (nodup_keys_rank h)
  refine List.Pairwise.imp ?_ ((pairwise_rank entries).and hkeys)
  rintro left right ⟨horder, hne⟩
  rw [← Entry.compare_swap, Entry.compare_eq_gt hne horder]
  rfl

/-- What holds of two entries whenever one goes before the other holds all along the ranking. -/
theorem ranksBy_of_compare {before : String → String → Prop} {totals : Table Delta}
    {mode : SortMode} {entries : SortMode → List Entry}
    (hkeys : (entries mode).map Entry.key = totals.keys)
    (h : ∀ left ∈ entries mode, ∀ right ∈ entries mode, left.compare right = .lt →
      before left.key right.key) :
    RanksBy before totals mode
      fun options => shown (entries options.sortMode) options.listCount := by
  have hnodup : ((entries mode).map Entry.key).Nodup := hkeys ▸ totals.nodup_keys
  refine ⟨(rank (entries mode)).map Entry.key, ?_, ?_, ?_⟩
  · rw [← hkeys]
    exact (rank_perm _).map Entry.key
  · rw [List.pairwise_map]
    refine List.Pairwise.imp_of_mem ?_ (pairwise_rank_lt hnodup)
    intro left right hleft hright
    exact h left ((rank_perm _).mem_iff.mp hleft) right ((rank_perm _).mem_iff.mp hright)
  · rintro options rfl
    show (shown _ _).map Entry.key = _
    rw [shown_eq_take, List.map_take]
    rfl

/-- The entries of a table have its keys, and the values that are found under these. -/
theorem mem_tableEntries {totals : Table Delta} {now : Table State} {metric : Delta → Binary64}
    {absolute : State → Int} {entry : Entry} (h : entry ∈ tableEntries totals now metric absolute) :
    ∃ delta, totals.get? entry.key = some delta ∧ entry.metric = metric delta ∧
      entry.tiebreak = valueAt now absolute entry.key := by
  obtain ⟨⟨key, delta⟩, hdelta, rfl⟩ := List.mem_map.mp h
  exact ⟨delta, Table.get?_eq_some_iff.mpr hdelta, rfl, rfl⟩

theorem keys_tableEntries (totals : Table Delta) (now : Table State) (metric : Delta → Binary64)
    (absolute : State → Int) :
    (tableEntries totals now metric absolute).map Entry.key = totals.keys := by
  rw [tableEntries, List.map_map]
  rfl

/-- Entries depend on the differences and the states that their tables have, and on no others. -/
theorem tableEntries_congr {totals : Table Delta} {now : Table State}
    {metric other : Delta → Binary64} {absolute otherAbsolute : State → Int}
    (hmetric : ∀ key delta, totals.get? key = some delta → metric delta = other delta)
    (habsolute : ∀ key state, now.get? key = some state → absolute state = otherAbsolute state) :
    tableEntries totals now metric absolute = tableEntries totals now other otherAbsolute := by
  refine List.map_congr_left ?_
  rintro ⟨key, delta⟩ hentry
  have hvalue : (now.get? key).map absolute = (now.get? key).map otherAbsolute :=
    Option.map_congr fun state hstate => habsolute key state hstate
  rw [hmetric key delta (Table.get?_eq_some_iff.mpr hentry), hvalue]

/-! ## Exact integers -/

/-- Where a key stands: the integer of its difference first, then the one of what is there now, then
the key. -/
def standing (totals : Table Delta) (now : Table State) (metric : Delta → Int)
    (absolute : State → Int) (key : String) : Int ×ₗ Int ×ₗ String :=
  toLex (valueAt totals metric key, toLex (valueAt now absolute key, key))

/-- The left key stands above the right one by exact integers. -/
def StandsAbove (totals : Table Delta) (now : Table State) (metric : Delta → Int)
    (absolute : State → Int) (left right : String) : Prop :=
  standing totals now metric absolute right < standing totals now metric absolute left

/-- No integer of the table is rounded when it becomes a number. -/
def Unrounded (totals : Table Delta) (metric : Delta → Int) : Prop :=
  ∀ key delta, totals.get? key = some delta → FitsSignificand (metric delta)

/-- 64 bits hold an amount of every state of the table. -/
def SumsFit (now : Table State) (absolute : State → Int) : Prop :=
  ∀ key state, now.get? key = some state → FitsInt64 (absolute state)

/-- The places of integers that are not rounded are in the order of the integers. -/
theorem compare_place_ofInt {left right : Int} (hleft : FitsSignificand left)
    (hright : FitsSignificand right) :
    compare (place (.ofInt left)) (place (.ofInt right)) = compare right left := by
  have hunit : (0 : Int) < Binary64.unitsPerOne := Int.natCast_pos.mpr Binary64.unitsPerOne_pos
  rw [place, place, Binary64.position?_ofInt hleft, Binary64.position?_ofInt hright]
  show compare (-(left * _)) (-(right * _)) = _
  rw [Int.compare_eq_ite_lt, Int.compare_eq_ite_lt]
  simp only [Int.neg_lt_neg_iff, Int.mul_lt_mul_right hunit]

/-- Ties are decided by what is there now and by the key. -/
theorem ties_eq_lt_iff {left right : Entry} :
    (compare right.tiebreak left.tiebreak).then (compare right.key left.key) = .lt ↔
      toLex (right.tiebreak, right.key) < toLex (left.tiebreak, left.key) := by
  have hkey : compare right.key left.key = .lt ↔ right.key < left.key := compareOfLessAndEq_eq_lt
  rw [Ordering.then_eq_lt, Prod.Lex.toLex_lt_toLex, compare_lt_iff_lt, compare_eq_iff_eq, hkey]

/-- With metrics that are not rounded, one entry goes before another exactly if it stands above it
by exact integers. -/
theorem compare_eq_lt_iff {totals : Table Delta} {now : Table State} {metric : Delta → Int}
    {absolute : State → Int} (unrounded : Unrounded totals metric) {left right : Entry}
    (hleft : left ∈ tableEntries totals now (fun delta => .ofInt (metric delta)) absolute)
    (hright : right ∈ tableEntries totals now (fun delta => .ofInt (metric delta)) absolute) :
    left.compare right = .lt ↔ StandsAbove totals now metric absolute left.key right.key := by
  obtain ⟨leftDelta, hl, hleftMetric, hleftTie⟩ := mem_tableEntries hleft
  obtain ⟨rightDelta, hr, hrightMetric, hrightTie⟩ := mem_tableEntries hright
  have hplaces := compare_place_ofInt (unrounded _ _ hl) (unrounded _ _ hr)
  rw [← hleftMetric, ← hrightMetric] at hplaces
  rw [Entry.compare_eq_then, hplaces, Ordering.then_eq_lt, compare_lt_iff_lt, compare_eq_iff_eq,
    ties_eq_lt_iff, hleftTie, hrightTie, StandsAbove, standing, standing, valueAt_of_get? hl,
    valueAt_of_get? hr]
  exact (@Prod.Lex.toLex_lt_toLex Int (Int ×ₗ String) _ _ (_, _) (_, _)).symm

/-- Metrics that are not rounded rank a table in the descending order of exact integers. -/
theorem ranksBy_standsAbove {totals : Table Delta} {now : Table State} {mode : SortMode}
    {entries : SortMode → List Entry} {metric : Delta → Int} {absolute : State → Int}
    (hentries : entries mode =
      tableEntries totals now (fun delta => .ofInt (metric delta)) absolute)
    (unrounded : Unrounded totals metric) :
    RanksBy (StandsAbove totals now metric absolute) totals mode
      fun options => shown (entries options.sortMode) options.listCount := by
  refine ranksBy_of_compare ?_ ?_
  · rw [hentries, keys_tableEntries]
  · rw [hentries]
    exact fun left hleft right hright => (compare_eq_lt_iff unrounded hleft hright).mp

/-- So do sums that wrap, while they have room. -/
theorem ranksBy_standsAbove_of_wraps {totals : Table Delta} {now : Table State} {mode : SortMode}
    {entries : SortMode → List Entry} {metric : Delta → Int} {absolute : State → Int}
    (hentries : entries mode = tableEntries totals now
      (fun delta => .ofInt (wrapInt64 (metric delta))) fun state => wrapInt64 (absolute state))
    (unrounded : Unrounded totals metric) (fits : SumsFit now absolute) :
    RanksBy (StandsAbove totals now metric absolute) totals mode
      fun options => shown (entries options.sortMode) options.listCount := by
  refine ranksBy_standsAbove (hentries.trans (tableEntries_congr ?_ ?_)) unrounded
  · intro key delta hdelta
    rw [wrapInt64_eq_self (unrounded key delta hdelta).fitsInt64]
  · exact fun key state hstate => wrapInt64_eq_self (fits key state hstate)

end LoadWatch.Ranking

namespace LoadWatch.NamespaceTop

open Binary64 (FitsSignificand limit)
open Ranking

/-! ## Time per operation -/

/-- The groups of namespaces by their time per operation, in the order in which they are shown:
neither operations nor time, time without operations, operations, and less time than before without
operations. -/
def latencyGroup (usage : Usage) : Nat :=
  if usage.count ≠ 0 then 2
  else if usage.time = 0 then 0
  else if 0 < usage.time then 1
  else 3

/-- The group of what has the given place: what is not a number, the larger infinity, the finite
numbers, and the smaller infinity. -/
def groupOfPlace : Option Int → Nat
  | none => 0
  | some place => if place ≤ -(limit : Int) then 1 else if place < limit then 2 else 3

theorem groupOfPlace_mono {left right : Option Int} (h : compare left right ≠ .gt) :
    groupOfPlace left ≤ groupOfPlace right := by
  have hlimit := Binary64.limit_pos
  cases left with
  | none => exact Nat.zero_le _
  | some l =>
    cases right with
    | none => exact absurd rfl h
    | some r =>
      have hle : l ≤ r := by
        have hcompare : compare l r ≠ .gt := h
        exact compare_le_iff_le.mp hcompare
      simp only [groupOfPlace]
      split_ifs <;> omega

/-- The place of namespaces without operations, by their group. -/
def edge : Nat → Option Int
  | 0 => none
  | 1 => some (-(limit : Int))
  | _ => some limit

theorem latencyGroup_eq_two_iff {usage : Usage} : latencyGroup usage = 2 ↔ usage.count ≠ 0 := by
  unfold latencyGroup
  split_ifs with hcount <;> simp [hcount]

/-- Without operations the time decides before or behind which numbers a namespace is shown. -/
theorem place_of_no_operations {usage : Usage} (h : FitsInt64 usage.time)
    (hcount : usage.count = 0) :
    place (.ofInt usage.time / .ofInt usage.count) = edge (latencyGroup usage) := by
  rw [hcount, latencyGroup, if_neg (not_not.mpr hcount)]
  by_cases hzero : usage.time = 0
  · rw [hzero, Binary64.zero_div_zero, if_pos rfl]
    rfl
  · rw [Binary64.div_zero_of_ne h hzero, if_neg hzero]
    by_cases hpos : 0 < usage.time
    · rw [if_pos hpos, decide_eq_false (by omega)]
      rfl
    · rw [if_neg hpos, decide_eq_true (by omega)]
      show some (-(-(limit : Int))) = some (limit : Int)
      rw [Int.neg_neg]

/-- With operations there is a number between the infinities. -/
theorem exists_place_of_operations {usage : Usage} (htime : FitsInt64 usage.time)
    (hcount : FitsInt64 usage.count) (hne : usage.count ≠ 0) : ∃ number : Int,
      place (.ofInt usage.time / .ofInt usage.count) = some number ∧
        -(limit : Int) < number ∧ number < limit := by
  obtain ⟨negative, units, magnitude, heq⟩ := Binary64.isFinite_div htime hcount hne
  have hunits : units < limit := magnitude.1
  rw [heq, place, Binary64.position?, Option.map_some]
  refine ⟨_, rfl, ?_⟩
  cases negative <;> simp only [if_true, Bool.false_eq_true, if_false] <;> omega

/-- The place of the time per operation tells the group. -/
theorem groupOfPlace_latency {usage : Usage} (htime : FitsInt64 usage.time)
    (hcount : FitsInt64 usage.count) :
    groupOfPlace (place (.ofInt usage.time / .ofInt usage.count)) = latencyGroup usage := by
  have hlimit := Binary64.limit_pos
  by_cases hzero : usage.count = 0
  · rw [place_of_no_operations htime hzero, latencyGroup, if_neg (not_not.mpr hzero)]
    split_ifs
    · rfl
    · simp only [edge, groupOfPlace, le_refl, if_true]
    · simp only [edge, groupOfPlace]
      rw [if_neg (by omega), if_neg (by omega)]
  · obtain ⟨number, hplace, hlow, hhigh⟩ := exists_place_of_operations htime hcount hzero
    rw [hplace, latencyGroup_eq_two_iff.mpr hzero]
    simp only [groupOfPlace]
    rw [if_neg (by omega), if_pos hhigh]

/-- The time per operation does not tell two usages of a group apart: they have no operations, or
their exact ratios are equal and of integers that are not rounded. -/
def Tied (left right : Usage) : Prop :=
  latencyGroup left = latencyGroup right ∧
    (left.count = 0 ∨ (left.time : ℚ) / left.count = right.time / right.count ∧
      FitsSignificand left.time ∧ FitsSignificand left.count ∧
      FitsSignificand right.time ∧ FitsSignificand right.count)

theorem place_eq_of_tied {left right : Usage} (h : Tied left right)
    (hleft : FitsInt64 left.time) (hright : FitsInt64 right.time) :
    place (.ofInt left.time / .ofInt left.count) =
      place (.ofInt right.time / .ofInt right.count) := by
  obtain ⟨hgroup, hcases⟩ := h
  have hoperations : left.count ≠ 0 ↔ right.count ≠ 0 := by
    rw [← latencyGroup_eq_two_iff, ← latencyGroup_eq_two_iff, hgroup]
  by_cases hcount : left.count = 0
  · have hcount' : right.count = 0 := not_not.mp fun hne => hoperations.mpr hne hcount
    rw [place_of_no_operations hleft hcount, place_of_no_operations hright hcount', hgroup]
  · obtain ⟨hratio, htime, hfits, htime', hfits'⟩ := hcases.resolve_left hcount
    have hcount' := hoperations.mp hcount
    rw [div_eq_div_iff (Int.cast_ne_zero.mpr hcount) (Int.cast_ne_zero.mpr hcount')] at hratio
    have hproducts : left.time * right.count = right.time * left.count := by exact_mod_cast hratio
    rw [place, place, Binary64.position?_div_eq htime htime' hfits hfits' hcount hcount' hproducts]

/-- What a namespace has used since the earlier snapshot. -/
def Diff.usageAt (diff : Diff) (name : String) : Usage :=
  ((diff.totals.get? name).map Activity.total).getD {}

/-- What is known of two namespaces of which the left one is shown first: their groups are in
order, and if the time per operation does not tell them apart, then the one with more time now comes
first, or else the one with the greater name. -/
structure LatencyBefore (diff : Diff) (left right : String) : Prop where
  groups : latencyGroup (diff.usageAt left) ≤ latencyGroup (diff.usageAt right)
  ties : Tied (diff.usageAt left) (diff.usageAt right) →
    toLex (valueAt diff.current.totals (fun now => now.total.time) right, right) <
      toLex (valueAt diff.current.totals (fun now => now.total.time) left, left)

/-- The times and counts of a difference are integers of 64 bits. -/
def Diff.TotalsFit (diff : Diff) : Prop :=
  ∀ name activity, diff.totals.get? name = some activity →
    FitsInt64 activity.total.time ∧ FitsInt64 activity.total.count

theorem latencyBefore_of_compare {diff : Diff} (fits : diff.TotalsFit) {left right : Entry}
    (hleft : left ∈ diff.entries .latency) (hright : right ∈ diff.entries .latency)
    (h : left.compare right = .lt) : LatencyBefore diff left.key right.key := by
  obtain ⟨leftActivity, hl, hleftMetric, hleftTie⟩ := mem_tableEntries hleft
  obtain ⟨rightActivity, hr, hrightMetric, hrightTie⟩ := mem_tableEntries hright
  obtain ⟨htime, hcount⟩ := fits _ _ hl
  obtain ⟨htime', hcount'⟩ := fits _ _ hr
  have husage : diff.usageAt left.key = leftActivity.total := by
    rw [Diff.usageAt, hl]
    rfl
  have husage' : diff.usageAt right.key = rightActivity.total := by
    rw [Diff.usageAt, hr]
    rfl
  rw [metric] at hleftMetric hrightMetric
  refine ⟨?_, ?_⟩
  · rw [husage, husage', ← groupOfPlace_latency htime hcount,
      ← groupOfPlace_latency htime' hcount', ← hleftMetric, ← hrightMetric]
    refine groupOfPlace_mono ?_
    intro hgreater
    rw [Entry.compare_eq_then, hgreater] at h
    cases h
  · intro htied
    rw [husage, husage'] at htied
    have hplaces := place_eq_of_tied htied htime htime'
    rw [← hleftMetric, ← hrightMetric] at hplaces
    rw [Entry.compare_of_place_eq hplaces, ties_eq_lt_iff, hleftTie, hrightTie] at h
    exact h

end LoadWatch.NamespaceTop

namespace LoadWatch

open Ranking

/-- While metrics are integers that are not rounded, reports show the first keys in the descending
order of exact integers: of the metric, of its current value, and of the keys; sums of what there
is now are told while 64 bits hold them. By the time per operation namespaces are shown in groups,
and in the order of their current times where it does not tell them apart. -/
theorem rankings_exact :
    (∀ diff : NamespaceTop.Diff, Unrounded diff.totals (fun activity => activity.total.time) →
      RanksBy (StandsAbove diff.totals diff.current.totals (fun activity => activity.total.time)
        fun now => now.total.time) diff.totals .total diff.ranked) ∧
    (∀ (diff : LockUsage.Diff) (mode : SortMode),
      Unrounded diff.totals (fun times => times.read + times.write) →
      SumsFit diff.current.locks
        (fun now => now.timeLocked.intentRead + now.timeLocked.intentWrite) →
      RanksBy (StandsAbove diff.totals diff.current.locks (fun times => times.read + times.write)
        fun now => now.timeLocked.intentRead + now.timeLocked.intentWrite)
        diff.totals mode diff.ranked) ∧
    (∀ diff : OperationMetrics.Diff,
      Unrounded diff.totals (fun metrics => metrics.processorTime) →
      RanksBy (StandsAbove diff.totals diff.current.databases
        (fun metrics => metrics.processorTime) fun now => now.processorTime)
        diff.totals .total diff.ranked) ∧
    (∀ diff : OperationMetrics.Diff,
      let units := fun metrics : OperationMetrics.Metrics =>
        metrics.primary.documentUnits + metrics.secondary.documentUnits +
          metrics.documentUnitsWritten
      Unrounded diff.totals units → SumsFit diff.current.databases units →
      RanksBy (StandsAbove diff.totals diff.current.databases units units)
        diff.totals .latency diff.ranked) ∧
    ∀ diff : NamespaceTop.Diff, diff.TotalsFit →
      RanksBy (NamespaceTop.LatencyBefore diff) diff.totals .latency diff.ranked := by
  refine ⟨?_, ?_, ?_, ?_, ?_⟩
  · exact fun diff => ranksBy_standsAbove rfl
  · exact fun diff mode => ranksBy_standsAbove_of_wraps rfl
  · exact fun diff => ranksBy_standsAbove rfl
  · intro diff units
    exact ranksBy_standsAbove_of_wraps rfl
  · intro diff fits
    refine ranksBy_of_compare (keys_tableEntries ..) ?_
    exact fun left hleft right hright => NamespaceTop.latencyBefore_of_compare fits hleft hright

/-- Namespaces of every group, after a restart in the middle of the sample; two of them have the
same time per operation. -/
def restartedUsage : NamespaceTop.Diff where
  cores := 4
  elapsed := ⟨1000000000⟩
  current := {
    time := ⟨0, 0⟩
    cores := 4
    totals := .ofPairs [
      ("db.steady", { total := ⟨20000, 10⟩ }),
      ("db.slow", { total := ⟨7000, 3⟩ })] }
  totals := .ofPairs [
    ("db.idle", {}),
    ("db.slow", { total := ⟨7, 0⟩ }),
    ("db.steady", { total := ⟨20, 10⟩ }),
    ("db.fewer", { total := ⟨-4, -2⟩ }),
    ("db.reset", { total := ⟨-9, 0⟩ })]
  time := ⟨0, 0⟩

/-- Locks held for the longest times that are not rounded. -/
def heldLocks : LockUsage.Diff where
  elapsed := ⟨1000000000⟩
  current := {
    time := ⟨0, 0⟩
    locks := .ofPairs [("orders", { timeLocked := { intentRead := 5 } })] }
  totals := .ofPairs [("orders", ⟨9007199254740991, 1⟩), ("stock", ⟨-9007199254740992, 0⟩)]
  time := ⟨0, 0⟩

/-- Databases that use their time and their document units differently. -/
def mixedMetrics : OperationMetrics.Diff where
  cores := 4
  elapsed := ⟨1000000000⟩
  current := {
    time := ⟨0, 0⟩
    cores := 4
    databases := .ofPairs [("stock", { documentUnitsWritten := 70, processorTime := 5 })] }
  totals := .ofPairs [
    ("orders", { processorTime := 900 }),
    ("stock", { documentUnitsWritten := 30 })]
  time := ⟨0, 0⟩

theorem forall_get?_ofPairs {α : Type} {pairs : List (String × α)} {holds : α → Prop}
    (h : ∀ pair ∈ pairs, holds pair.2) (key : String) (value : α)
    (hget : (Table.ofPairs pairs).get? key = some value) : holds value :=
  h (key, value) (Keyed.mem_of_mem_ofPairs (Table.get?_eq_some_iff.mp hget))

/-- These differences are ranked by exact integers, and the namespaces also by groups. -/
theorem restartedUsage_ranked :
    (Unrounded restartedUsage.totals (fun activity => activity.total.time) ∧
      RanksBy (StandsAbove restartedUsage.totals restartedUsage.current.totals
        (fun activity => activity.total.time) fun now => now.total.time)
        restartedUsage.totals .total restartedUsage.ranked) ∧
    (restartedUsage.TotalsFit ∧
      RanksBy (NamespaceTop.LatencyBefore restartedUsage) restartedUsage.totals .latency
        restartedUsage.ranked) ∧
    (Unrounded heldLocks.totals (fun times => times.read + times.write) ∧
      SumsFit heldLocks.current.locks
        (fun now => now.timeLocked.intentRead + now.timeLocked.intentWrite) ∧
      RanksBy (StandsAbove heldLocks.totals heldLocks.current.locks
        (fun times => times.read + times.write)
        fun now => now.timeLocked.intentRead + now.timeLocked.intentWrite)
        heldLocks.totals .latency heldLocks.ranked) ∧
    (Unrounded mixedMetrics.totals (fun metrics => metrics.processorTime) ∧
      RanksBy (StandsAbove mixedMetrics.totals mixedMetrics.current.databases
        (fun metrics => metrics.processorTime) fun now => now.processorTime)
        mixedMetrics.totals .total mixedMetrics.ranked) ∧
    let units := fun metrics : OperationMetrics.Metrics =>
      metrics.primary.documentUnits + metrics.secondary.documentUnits +
        metrics.documentUnitsWritten
    Unrounded mixedMetrics.totals units ∧ SumsFit mixedMetrics.current.databases units ∧
      RanksBy (StandsAbove mixedMetrics.totals mixedMetrics.current.databases units units)
        mixedMetrics.totals .latency mixedMetrics.ranked := by
  obtain ⟨namespaces, locks, processorTimes, units, latencies⟩ := rankings_exact
  have htimes : Unrounded restartedUsage.totals fun activity => activity.total.time :=
    forall_get?_ofPairs (by decide)
  have hfit : restartedUsage.TotalsFit := forall_get?_ofPairs (by decide)
  have hheld : Unrounded heldLocks.totals fun times => times.read + times.write :=
    forall_get?_ofPairs (by decide)
  have hintents : SumsFit heldLocks.current.locks
      fun now => now.timeLocked.intentRead + now.timeLocked.intentWrite :=
    forall_get?_ofPairs (by decide)
  have hprocessor : Unrounded mixedMetrics.totals fun metrics => metrics.processorTime :=
    forall_get?_ofPairs (by decide)
  have hunits : Unrounded mixedMetrics.totals fun metrics => metrics.primary.documentUnits +
      metrics.secondary.documentUnits + metrics.documentUnitsWritten :=
    forall_get?_ofPairs (by decide)
  have hsums : SumsFit mixedMetrics.current.databases fun now => now.primary.documentUnits +
      now.secondary.documentUnits + now.documentUnitsWritten :=
    forall_get?_ofPairs (by decide)
  exact ⟨⟨htimes, namespaces _ htimes⟩, ⟨hfit, latencies _ hfit⟩,
    ⟨hheld, hintents, locks _ .latency hheld hintents⟩,
    ⟨hprocessor, processorTimes _ hprocessor⟩, hunits, hsums, units _ hunits hsums⟩

end LoadWatch
