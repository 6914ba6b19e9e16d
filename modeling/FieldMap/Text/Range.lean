/-!
Classes of characters given by ranges of code points.
-/

namespace FieldMap.Text

def inRanges (ranges : List (Nat × Nat)) (c : Char) : Bool :=
  ranges.any fun range => range.1 ≤ c.toNat && c.toNat ≤ range.2

end FieldMap.Text
