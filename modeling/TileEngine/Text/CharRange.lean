/-!
Sets of characters given as tables of code-point ranges.
-/

namespace TileEngine.Text

/-- Whether a code point lies in one of the ranges, both ends included. -/
def inRanges (table : Array (Nat × Nat)) (code : Nat) : Bool :=
  table.any fun range => range.1 ≤ code && code ≤ range.2

end TileEngine.Text
