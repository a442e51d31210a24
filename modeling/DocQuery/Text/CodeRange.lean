/-!
Sets of characters as lists of closed ranges of code points.
-/

namespace DocQuery.Text

def inRanges (ranges : List (Nat × Nat)) (code : Nat) : Bool :=
  ranges.any fun range => range.1 ≤ code && code ≤ range.2

end DocQuery.Text
