/-!
Sets of characters as closed ranges of code points.
-/

namespace CardLogic.Text

def inRanges (ranges : List (Nat × Nat)) (c : Char) : Bool :=
  ranges.any fun r => r.1 ≤ c.toNat && c.toNat ≤ r.2

end CardLogic.Text
