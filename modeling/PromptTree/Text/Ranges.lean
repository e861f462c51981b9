/-!
Sets of characters given as ranges of code points.
-/

namespace PromptTree.Text

/-- The character lies in one of the ranges, both ends included. -/
def inRanges (ranges : List (Nat × Nat)) (c : Char) : Bool :=
  ranges.any fun (first, last) => first ≤ c.toNat && c.toNat ≤ last

theorem inRanges_eq_true_iff {ranges : List (Nat × Nat)} {c : Char} :
    inRanges ranges c = true ↔ ∃ r ∈ ranges, r.1 ≤ c.toNat ∧ c.toNat ≤ r.2 := by
  simp [inRanges]

end PromptTree.Text
