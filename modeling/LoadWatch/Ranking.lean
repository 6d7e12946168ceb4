/-
  Ranking.lean --- the order in which the entries of a report are shown.

  Entries are ordered by a metric, which may be undefined.  Undefined metrics
  come first, then larger metrics before smaller ones; ties are broken by a
  larger absolute value and then by a greater key.  The order is stable.

  Main property: the comparison of two entries, swapped, is the swapped
  comparison (`Entry.compare_swap`).
-/
import LoadWatch.Binary64.Basic

set_option autoImplicit false

namespace LoadWatch.Ranking

/-- What the entries of a report are ordered by. -/
inductive SortMode where
  /-- The accumulated total. -/
  | total
  /-- The average per operation. -/
  | latency
  deriving DecidableEq

/-- An entry with the values that decide its place. -/
structure Entry where
  key : String
  metric : Binary64
  /-- The absolute value that decides between equal metrics. -/
  tiebreak : Int

/-! ## The order -/

/-- An undefined metric comes before a defined one. -/
def undefinedFirst (left right : Binary64) : Ordering :=
  match left.isNaN, right.isNaN with
  | true, false => .lt
  | false, true => .gt
  | _, _ => .eq

/-- A larger metric comes first. -/
def largerFirst (left right : Binary64) : Ordering :=
  match left.position?, right.position? with
  | some l, some r => compare r l
  | _, _ => .eq

namespace Entry

/-- The order of entries; `.lt` means that the left one is shown first. -/
def compare (left right : Entry) : Ordering :=
  (undefinedFirst left.metric right.metric).then <|
    (largerFirst left.metric right.metric).then <|
      (Ord.compare right.tiebreak left.tiebreak).then (Ord.compare right.key left.key)

end Entry

/-! ## Ranking -/

/-- The entries in order; entries that compare equal keep their order. -/
def rank (entries : List Entry) : List Entry :=
  entries.mergeSort fun left right => left.compare right != .gt

/-- The first entries up to a limit, all of them for a limit of zero. -/
def truncate (entries : List Entry) (limit : Nat) : List Entry :=
  if limit = 0 then entries else entries.take limit

/-- The number of entries shown when none is asked for. -/
def defaultCount : Nat := 9

/-- The number of entries to show, where zero asks for the default. -/
def displayCount (listCount : Nat) : Nat := if listCount = 0 then defaultCount else listCount

/-- The entries to show, in order. -/
def shown (entries : List Entry) (listCount : Nat) : List Entry :=
  truncate (rank entries) (displayCount listCount)

/-! ## Swapping the sides -/

theorem undefinedFirst_swap (left right : Binary64) :
    (undefinedFirst left right).swap = undefinedFirst right left := by
  unfold undefinedFirst
  cases left.isNaN <;> cases right.isNaN <;> rfl

theorem largerFirst_swap (left right : Binary64) :
    (largerFirst left right).swap = largerFirst right left := by
  unfold largerFirst
  cases left.position? with
  | none => cases right.position? <;> rfl
  | some l =>
    cases right.position? with
    | none => rfl
    | some r => exact Std.OrientedOrd.eq_swap.symm

/-- The comparison of swapped entries is the swapped comparison. -/
theorem Entry.compare_swap (left right : Entry) :
    (left.compare right).swap = right.compare left := by
  rw [Entry.compare, Entry.compare, Ordering.swap_then, Ordering.swap_then, Ordering.swap_then,
    undefinedFirst_swap, largerFirst_swap, ← Std.OrientedOrd.eq_swap, ← Std.OrientedOrd.eq_swap]

end LoadWatch.Ranking
