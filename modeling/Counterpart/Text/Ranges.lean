/-! Membership in a table of closed ranges of numbers. -/

namespace Counterpart

def inRanges (n : Nat) (table : List (Nat × Nat)) : Bool :=
  table.any fun (lo, hi) => lo ≤ n && n ≤ hi

end Counterpart
