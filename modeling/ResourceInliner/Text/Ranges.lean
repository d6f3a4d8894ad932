/-
Sets of characters given by ranges of code points.
-/
namespace ResourceInliner

/-- inclusive ranges of code points -/
abbrev CodeRanges := List (Nat × Nat)

/-- is the character in one of the ranges? -/
def CodeRanges.contains (ranges : CodeRanges) (c : Char) : Bool :=
  ranges.any fun (lo, hi) => lo ≤ c.toNat && c.toNat ≤ hi

end ResourceInliner
