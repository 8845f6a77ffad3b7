/-!
# Text — character ranges

Sets of characters are tables of code point ranges, both ends included, in ascending order.
-/

namespace DriverPrintf.Text

/-- Whether the code point of `c` lies in one of the ranges. -/
def inRanges (ranges : List (Nat × Nat)) (c : Char) : Bool :=
  ranges.any fun range => range.1 ≤ c.toNat && c.toNat ≤ range.2

end DriverPrintf.Text
