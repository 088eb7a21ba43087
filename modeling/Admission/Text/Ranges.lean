/-!
# Tables of code point ranges

A property of code points is held as the list of its maximal ranges, both ends included.
-/

namespace Admission

/-- Ranges of numbers, both ends included. -/
abbrev Ranges := List (Nat × Nat)

namespace Ranges

/-- A number lies in one of the ranges. -/
def has (rs : Ranges) (n : Nat) : Bool := rs.any fun r => decide (r.1 ≤ n) && decide (n ≤ r.2)

end Ranges

end Admission
