/-!
# Ranges of code points

A class of characters that a standard defines is a table: the closed ranges of its code points, in
increasing order.
-/

namespace Patchbay.Text

/-- The closed ranges of the code points of a class of characters. -/
abbrev Ranges := List (Nat × Nat)

namespace Ranges

/-- Whether a character is in one of the ranges. -/
def contains (ranges : Ranges) (c : Char) : Bool :=
  ranges.any (fun range => range.1 ≤ c.toNat && c.toNat ≤ range.2)

end Ranges

end Patchbay.Text
