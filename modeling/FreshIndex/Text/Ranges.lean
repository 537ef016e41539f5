/-!
This module contains sets of characters given as ranges of code points.
-/

namespace FreshIndex.Text

/-- A set of code points: a pair stands for all code points from its first to its second part. -/
abbrev Ranges := Array (Nat × Nat)

def Ranges.contains (ranges : Ranges) (c : Char) : Bool :=
  ranges.any fun (lo, hi) => lo ≤ c.toNat && c.toNat ≤ hi

end FreshIndex.Text
