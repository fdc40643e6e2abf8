/-!
# Ranges of characters

Classes of characters are given by the ranges of their code points.
-/

namespace Coordination.Text

/-- Ranges of code points, both ends included, in ascending order. -/
abbrev Ranges := List (Nat × Nat)

def Ranges.contains (r : Ranges) (c : Char) : Bool := r.any fun (first, last) => first ≤ c.toNat && c.toNat ≤ last

end Coordination.Text
