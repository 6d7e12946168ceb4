/-
  Proofs/RankingOrder.lean --- the order of entries is a total order.

  WHAT THIS FILE IS FOR.  Entries are compared in four stages, two of them about
  a metric that may be undefined.  The two are one comparison of places, where
  an undefined metric has the place before all numbers (`metric_order`), so that
  the order of entries is a lexicographic one and inherits what such orders
  have: it is transitive, and swapping the sides swaps the result.

  Entries that compare equal have the same key.  Hence entries with different
  keys can be ranked in one way only, whatever order they come in.

  Main results: `pairwise_rank` and `rank_eq_of_perm`.
-/
import Mathlib.Data.List.Nodup
import LoadWatch.Ranking

set_option autoImplicit false

namespace LoadWatch.Ranking

/-! ## The order of metrics -/

/-- The place of a metric in the order in which metrics are shown. -/
def place (metric : Binary64) : Option Int := metric.position?.map (- ·)

/-- Undefined metrics have the first place, and larger metrics come before smaller ones. -/
theorem metric_order (left right : Binary64) :
    (undefinedFirst left right).then (largerFirst left right) =
      compare (place left) (place right) := by
  have hundefined : ∀ metric : Binary64, metric.isNaN = metric.position?.isNone := by
    intro metric
    cases metric <;> rfl
  have hnegated : ∀ l r : Int, compare (-l) (-r) = compare r l := by
    intro l r
    rw [Int.compare_eq_ite_lt, Int.compare_eq_ite_lt]
    simp only [Int.neg_lt_neg_iff]
  unfold undefinedFirst largerFirst place
  rw [hundefined left, hundefined right]
  cases left.position? with
  | none => cases right.position? <;> rfl
  | some l =>
    cases right.position? with
    | none => rfl
    | some r => exact (hnegated l r).symm

/-! ## The order of entries -/

namespace Entry

/-- The places of metrics decide first. -/
theorem compare_eq_then (left right : Entry) : left.compare right =
    (Ord.compare (place left.metric) (place right.metric)).then
      ((Ord.compare right.tiebreak left.tiebreak).then (Ord.compare right.key left.key)) := by
  unfold Entry.compare
  rw [← Ordering.then_assoc, metric_order]

/-- Between metrics of one place, a larger absolute value goes first, and then a greater key. -/
theorem compare_of_place_eq {left right : Entry} (h : place left.metric = place right.metric) :
    left.compare right =
      (Ord.compare right.tiebreak left.tiebreak).then (Ord.compare right.key left.key) := by
  have hsame : Ord.compare (place left.metric) (place right.metric) = .eq :=
    Std.LawfulEqCmp.compare_eq_iff_eq.mpr h
  rw [compare_eq_then, hsame]
  rfl

/-- The order of entries is lexicographic. -/
theorem compare_eq_compareLex : Entry.compare =
    compareLex (compareOn fun entry => place entry.metric)
      (compareLex (fun left right => compareOn Entry.tiebreak right left)
        fun left right => compareOn Entry.key right left) := by
  funext left right
  exact compare_eq_then left right

instance : Std.TransCmp Entry.compare := by
  rw [compare_eq_compareLex]
  infer_instance

/-- Entries are only equal in the order if they have the same key. -/
theorem key_eq_of_compare_eq {left right : Entry} (h : left.compare right = .eq) :
    left.key = right.key := by
  unfold Entry.compare at h
  simp only [Ordering.then_eq_eq] at h
  exact (Std.LawfulEqCmp.eq_of_compare h.2.2.2).symm

/-- One of two entries goes first, or both are equal in the order. -/
theorem ne_gt_total (left right : Entry) :
    left.compare right ≠ .gt ∨ right.compare left ≠ .gt := by
  rw [← compare_swap right left]
  cases right.compare left <;> simp

theorem ne_gt_trans {first second third : Entry} (h : first.compare second ≠ .gt)
    (h' : second.compare third ≠ .gt) : first.compare third ≠ .gt := by
  have hle : (first.compare third).isLE :=
    Std.TransCmp.isLE_trans (Ordering.isLE_iff_ne_gt.mpr h) (Ordering.isLE_iff_ne_gt.mpr h')
  exact Ordering.isLE_iff_ne_gt.mp hle

/-- Entries of different keys that do not go the other way round are strictly in order. -/
theorem compare_eq_gt {left right : Entry} (keys : left.key ≠ right.key)
    (h : left.compare right ≠ .gt) : right.compare left = .gt := by
  rw [← compare_swap left right]
  cases order : left.compare right with
  | lt => rfl
  | eq => exact absurd (key_eq_of_compare_eq order) keys
  | gt => exact absurd order h

end Entry

/-! ## Ranking -/

theorem rank_perm (entries : List Entry) : (rank entries).Perm entries :=
  List.mergeSort_perm ..

/-- A ranking is in order. -/
theorem pairwise_rank (entries : List Entry) :
    (rank entries).Pairwise fun left right => left.compare right ≠ .gt := by
  have htrans : ∀ first second third : Entry, (first.compare second != .gt) = true →
      (second.compare third != .gt) = true → (first.compare third != .gt) = true := by
    intro first second third h h'
    exact bne_iff_ne.mpr (Entry.ne_gt_trans (bne_iff_ne.mp h) (bne_iff_ne.mp h'))
  have htotal : ∀ left right : Entry,
      ((left.compare right != .gt) || (right.compare left != .gt)) = true := by
    intro left right
    rw [Bool.or_eq_true, bne_iff_ne, bne_iff_ne]
    exact Entry.ne_gt_total left right
  exact (List.pairwise_mergeSort htrans htotal entries).imp fun h => bne_iff_ne.mp h

theorem nodup_keys_rank {entries : List Entry} (h : (entries.map Entry.key).Nodup) :
    ((rank entries).map Entry.key).Nodup :=
  ((rank_perm entries).map Entry.key).nodup_iff.mpr h

/-- The ranking of entries with different keys does not depend on the order they come in. -/
theorem rank_eq_of_perm {left right : List Entry} (h : left.Perm right)
    (nodup : (left.map Entry.key).Nodup) : rank left = rank right := by
  have hperm : (rank left).Perm (rank right) :=
    ((rank_perm left).trans h).trans (rank_perm right).symm
  refine List.Perm.eq_of_pairwise ?_ (pairwise_rank left) (pairwise_rank right) hperm
  intro first second hfirst hsecond h h'
  have hkeys : first.key = second.key := by
    by_cases keys : first.key = second.key
    · exact keys
    · exact absurd (Entry.compare_eq_gt keys h) h'
  exact List.inj_on_of_nodup_map (nodup_keys_rank nodup) hfirst (hperm.mem_iff.mpr hsecond) hkeys

end LoadWatch.Ranking
