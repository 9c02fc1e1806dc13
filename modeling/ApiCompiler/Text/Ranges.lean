/-!
# Code point ranges

A character class of Unicode is listed as the inclusive ranges of code points that belong to it, in
increasing order. The classes in the neighbouring modules follow Unicode 14.0.
-/

namespace ApiCompiler.Text

/-- Inclusive ranges of code points, in increasing order and apart from each other. -/
abbrev Ranges := List (Nat × Nat)

/-- Membership of a code point in one of the ranges. -/
def Ranges.contains (ranges : Ranges) (code : Nat) : Bool :=
  ranges.any fun range ↦ range.1 ≤ code && code ≤ range.2

@[simp] theorem Ranges.contains_iff {ranges : Ranges} {code : Nat} :
    ranges.contains code = true ↔ ∃ range ∈ ranges, range.1 ≤ code ∧ code ≤ range.2 := by
  simp [Ranges.contains]

end ApiCompiler.Text
