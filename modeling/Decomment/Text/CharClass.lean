/-!
# Classes of characters

A class is written as the list of the ranges of code points that belong to it, each with both its
ends. Membership is the only operation: a character belongs to a class when some range holds its
code point.
-/

namespace Decomment.Text

/-- Ranges of code points, each given by its first and its last member. -/
abbrev CharClass := List (Nat × Nat)

/-- A character belongs to a class when one of the ranges holds its code point. -/
def CharClass.contains (ranges : CharClass) (c : Char) : Bool :=
  ranges.any fun range => range.1 ≤ c.toNat && c.toNat ≤ range.2

theorem CharClass.contains_iff {ranges : CharClass} {c : Char} :
    ranges.contains c = true ↔ ∃ range ∈ ranges, range.1 ≤ c.toNat ∧ c.toNat ≤ range.2 := by
  simp [CharClass.contains]

end Decomment.Text
