/-!
Sets of characters given by their intervals of code points. The tables of the
character classes in this folder have this shape.
-/

namespace LinkIndex

/-- Closed intervals of code points. -/
abbrev Ranges := List (Nat × Nat)

/-- Whether `c` lies in one of the intervals. -/
def Ranges.contains (ranges : Ranges) (c : Char) : Bool :=
  ranges.any fun r => r.1 ≤ c.toNat && c.toNat ≤ r.2

theorem Ranges.contains_iff {ranges : Ranges} {c : Char} :
    ranges.contains c = true ↔ ∃ r ∈ ranges, r.1 ≤ c.toNat ∧ c.toNat ≤ r.2 := by
  simp [Ranges.contains]

end LinkIndex
