/-
  Proofs/EntryOrder.lean --- the order of entries, told by what they say.

  WHAT THIS FILE IS FOR.  The comparison of entries asks a metric for two things:
  whether it is a number at all, and where it stands.  Here its result is told
  without them, from the point of the extended real line that a metric stands
  for, from the absolute value and from the key.

  The first stage is what makes the others sound.  Metrics that are not numbers
  compare with nothing, so the second stage calls them equal to everything; but
  it is only reached by two of them, or by none.

  Main result: `compare_ordersEntries`.
-/
import LoadWatch.Proofs.NumberLine
import LoadWatch.Proofs.RankingOrder

set_option autoImplicit false

namespace LoadWatch.Ranking

namespace Entry

/-! ## The stages -/

/-- Metrics have the same place exactly if they stand for the same point, or both for none. -/
theorem place_eq_iff (left right : Binary64) :
    place left = place right ↔ left.value? = right.value? := by
  rw [Binary64.value?_eq_iff, place, place]
  exact (Option.map_injective neg_injective).eq_iff

/-- Entries are equal in the order exactly if nothing that is compared tells them apart. -/
theorem compare_eq_iff (left right : Entry) : left.compare right = .eq ↔
    left.metric.value? = right.metric.value? ∧ left.tiebreak = right.tiebreak ∧
      left.key = right.key := by
  rw [compare_eq_then, Ordering.then_eq_eq, Ordering.then_eq_eq,
    Std.LawfulEqCmp.compare_eq_iff_eq, Std.LawfulEqCmp.compare_eq_iff_eq,
    Std.LawfulEqCmp.compare_eq_iff_eq, place_eq_iff, @eq_comm _ right.tiebreak,
    @eq_comm _ right.key]

/-- A metric that is not a number goes before every number. -/
theorem compare_of_undefined {left right : Entry} {value : EReal}
    (hleft : left.metric.value? = none) (hright : right.metric.value? = some value) :
    left.compare right = .lt := by
  have hundefined : left.metric.isNaN = true := (Binary64.value?_eq_none_iff _).mp hleft
  have hdefined : right.metric.isNaN = false := by
    rw [← Bool.not_eq_true, ← Binary64.value?_eq_none_iff, hright]
    exact nofun
  unfold Entry.compare undefinedFirst
  rw [hundefined, hdefined]
  rfl

/-- Of two numbers the larger one goes first. -/
theorem compare_of_larger {left right : Entry} {larger smaller : EReal}
    (hleft : left.metric.value? = some larger) (hright : right.metric.value? = some smaller)
    (h : smaller < larger) : left.compare right = .lt := by
  obtain ⟨r, l, hr, hl, hlt⟩ := Binary64.exists_positions hright hleft
  have hplaces : Ord.compare (place left.metric) (place right.metric) = .lt := by
    rw [place, place, hl, hr]
    exact compare_lt_iff_lt.mpr (neg_lt_neg (hlt.mpr h))
  rw [compare_eq_then, hplaces]
  rfl

end Entry

/-! ## The order -/

/-- The comparison is a total preorder, and this is what it goes by. -/
structure OrdersEntries (compare : Entry → Entry → Ordering) : Prop where
  /-- Swapping the sides swaps the result. -/
  swap : ∀ left right, compare left right = (compare right left).swap
  /-- Going not behind is transitive. -/
  trans : ∀ first second third, compare first second ≠ .gt → compare second third ≠ .gt →
    compare first third ≠ .gt
  equivalence : Equivalence fun left right => compare left right = .eq
  /-- Equal entries compare alike with every other one. -/
  congruent : ∀ left right, compare left right = .eq → ∀ other,
    compare left other = compare right other ∧ compare other left = compare other right
  /-- Equal entries agree in all that is compared. -/
  equal_iff : ∀ left right, compare left right = .eq ↔
    left.metric.value? = right.metric.value? ∧ left.tiebreak = right.tiebreak ∧
      left.key = right.key
  /-- Between equal metrics the absolute value decides, and then the key, both descending. -/
  ties : ∀ left right, left.metric.value? = right.metric.value? → compare left right =
    (Ord.compare right.tiebreak left.tiebreak).then (Ord.compare right.key left.key)
  /-- What is not a number goes before every number. -/
  undefined_first : ∀ left right, left.metric.value? = none → right.metric.value? ≠ none →
    compare left right = .lt
  /-- Larger numbers go first. -/
  larger_first : ∀ left right larger smaller, left.metric.value? = some larger →
    right.metric.value? = some smaller → smaller < larger → compare left right = .lt

/-- Entries are ordered by the values of their metrics, whatever 64 bits these are. A metric stands
for what the interchange format says of its bits, and every metric has bits; so both signs of what
is not a number, of zero and of the infinities are among them. -/
theorem compare_ordersEntries :
    OrdersEntries Entry.compare ∧
      (∀ bits, (Binary64.ofBits bits).value? =
        Binary64.encodedValue? bits.msb (Binary64.exponentOf bits) (Binary64.fractionOf bits)) ∧
      ∀ metric, ∃ bits, Binary64.ofBits bits = metric := by
  refine ⟨?_, Binary64.value?_ofBits, Binary64.exists_ofBits⟩
  refine ⟨?_, ?_, ?_, ?_, ?_, ?_, ?_, ?_⟩
  · exact fun left right => (Entry.compare_swap right left).symm
  · exact fun first second third => Entry.ne_gt_trans
  · refine ⟨fun entry => Std.ReflCmp.compare_self, ?_, ?_⟩
    · exact fun h => Std.OrientedCmp.eq_symm h
    · exact fun h h' => Std.TransCmp.eq_trans h h'
  · intro left right h other
    exact ⟨Std.TransCmp.congr_left h, Std.TransCmp.congr_right h⟩
  · exact Entry.compare_eq_iff
  · exact fun left right h => Entry.compare_of_place_eq ((Entry.place_eq_iff _ _).mpr h)
  · intro left right hleft hright
    obtain ⟨value, hvalue⟩ := Option.ne_none_iff_exists'.mp hright
    exact Entry.compare_of_undefined hleft hvalue
  · exact fun left right larger smaller => Entry.compare_of_larger

end LoadWatch.Ranking
