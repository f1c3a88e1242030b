/-!
# Ranges of code points

Classes of characters are written as lists of closed intervals.
-/

namespace ProseLint.Text

/-- Does the code point lie in one of the closed intervals? -/
def inRanges (code : Nat) (ranges : List (Nat × Nat)) : Bool :=
  ranges.any fun (lo, hi) => lo ≤ code && code ≤ hi

theorem inRanges_iff {code : Nat} {ranges : List (Nat × Nat)} :
    inRanges code ranges = true ↔ ∃ r ∈ ranges, r.1 ≤ code ∧ code ≤ r.2 := by
  simp [inRanges]

end ProseLint.Text
