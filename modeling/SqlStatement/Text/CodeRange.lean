/-!
# Sets of characters given by code point ranges

Character properties are tables of closed code point ranges, and `Text.inRanges` reads one.
-/

namespace SqlStatement.Text

/-- A closed range of code points, by its first and its last member. -/
abbrev CodeRange := Nat × Nat

/-- A character belongs to a table if one of the table's ranges holds its code point. -/
def inRanges (ranges : List CodeRange) (c : Char) : Bool :=
  ranges.any fun r ↦ r.1 ≤ c.toNat && c.toNat ≤ r.2

/-- Membership in a table, as a statement about code points. -/
theorem inRanges_iff {ranges : List CodeRange} {c : Char} :
    inRanges ranges c = true ↔ ∃ r ∈ ranges, r.1 ≤ c.toNat ∧ c.toNat ≤ r.2 := by
  simp [inRanges]

end SqlStatement.Text
