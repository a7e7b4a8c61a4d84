/-!
# Ranges of code points

A property of characters is written down as a list of closed ranges of code points. Membership is
a plain scan: the tables are short, and a scan is what a proof by cases over a table follows.
-/

namespace VmSupport.Text

/-- Whether a character's code point lies in one of the listed closed ranges. -/
def inRanges (ranges : List (Nat × Nat)) (c : Char) : Bool :=
  ranges.any fun r => decide (r.1 ≤ c.toNat) && decide (c.toNat ≤ r.2)

theorem inRanges_iff {ranges : List (Nat × Nat)} {c : Char} :
    inRanges ranges c = true ↔ ∃ r ∈ ranges, r.1 ≤ c.toNat ∧ c.toNat ≤ r.2 := by
  simp [inRanges]

end VmSupport.Text
