/-
Sets of characters given by ranges of code points.
-/

namespace PerpDeploy.Text

/-- A table of closed intervals of code points, in increasing order. -/
abbrev CodePointRanges := List (Nat × Nat)

def CodePointRanges.contains (ranges : CodePointRanges) (c : Char) : Bool :=
  ranges.any fun range => range.1 ≤ c.toNat && c.toNat ≤ range.2

end PerpDeploy.Text
