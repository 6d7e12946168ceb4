/-
  Text/Ranges.lean --- classes of characters given by ranges of code points.

  A class is a list of closed ranges in ascending order.  `inRanges` decides
  membership.
-/

set_option autoImplicit false

namespace LoadWatch.Text

/-- The code point `n` lies in one of the closed ranges. -/
def inRanges (ranges : List (Nat × Nat)) (n : Nat) : Bool :=
  ranges.any fun range => range.1 ≤ n && n ≤ range.2

/-- A code point between the ends of a listed range is in the class. -/
theorem inRanges_of_mem {ranges : List (Nat × Nat)} {low high n : Nat}
    (listed : (low, high) ∈ ranges) (above : low ≤ n) (below : n ≤ high) :
    inRanges ranges n = true := by
  rw [inRanges, List.any_eq_true]
  exact ⟨(low, high), listed, by simp [above, below]⟩

end LoadWatch.Text
