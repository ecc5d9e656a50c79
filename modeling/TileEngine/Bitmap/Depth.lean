/-!
Pixel encodings: how many bits a pixel takes, whether those bits are a palette
index, and how many bytes a row of pixels occupies.
-/

namespace TileEngine

/-- How a bitmap stores one pixel. -/
inductive Depth where
  /-- One bit, eight pixels to a byte, the most significant bit leftmost. -/
  | mono1
  /-- One byte, an index into the palette. -/
  | indexed8
  /-- Four bytes: red, green, blue and a zero. -/
  | trueColor32
  deriving DecidableEq, Repr, Inhabited

namespace Depth

/-- Bits of one pixel. -/
def bits : Depth → Nat
  | .mono1 => 1
  | .indexed8 => 8
  | .trueColor32 => 32

/-- Whether pixels hold palette indices. -/
def isIndexed : Depth → Bool
  | .trueColor32 => false
  | _ => true

/-- The longest palette a bitmap of this depth may carry. -/
def maxPalette : Depth → Nat
  | .mono1 => 2
  | _ => 256

/-- Bytes of one row: its bits, rounded up to whole 32-bit words. -/
def stride (depth : Depth) (width : UInt16) : Nat :=
  (width.toNat * depth.bits + 31) / 32 * 4

/-- The name used in diagnostics. -/
def label : Depth → String
  | .mono1 => "Mono1"
  | .indexed8 => "Indexed8"
  | .trueColor32 => "TrueColor32"

end Depth

end TileEngine
