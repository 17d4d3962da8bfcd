/-!
# Sets of characters as ranges of code points

The character classes of this library are tables of closed ranges of code points in rising order.
`inRanges` is the membership test they share.
-/

namespace ProcessStubs.Text

/-- Whether the code point `n` lies in one of the ranges, both ends included. -/
def inRanges (ranges : List (Nat × Nat)) (n : Nat) : Bool :=
  ranges.any fun r => r.1 ≤ n && n ≤ r.2

theorem inRanges_iff {ranges : List (Nat × Nat)} {n : Nat} :
    inRanges ranges n = true ↔ ∃ r ∈ ranges, r.1 ≤ n ∧ n ≤ r.2 := by
  simp [inRanges]

end ProcessStubs.Text
