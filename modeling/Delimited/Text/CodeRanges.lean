/-!
# Ranges of character numbers

A set of characters given as a list of ranges of their numbers, both ends included. The tables of
character properties have this form.
-/

namespace Delimited.Text

/-- A set of characters, as ranges of their numbers with both ends included. -/
abbrev CodeRanges := List (Nat × Nat)

/-- The character lies in one of the ranges. -/
def CodeRanges.contains (ranges : CodeRanges) (char : Char) : Bool :=
  ranges.any fun (first, last) ↦ first ≤ char.toNat && char.toNat ≤ last

/-- A character lies in a set exactly when its number lies in one of the ranges. -/
theorem CodeRanges.contains_iff {ranges : CodeRanges} {char : Char} :
    ranges.contains char = true ↔
      ∃ range ∈ ranges, range.1 ≤ char.toNat ∧ char.toNat ≤ range.2 := by
  simp [contains]

end Delimited.Text
