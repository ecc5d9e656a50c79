import TileEngine.Bitmap.Pixel

/-!
Painting a bitmap from a list of values: they are written in row order from the
first pixel on, one row after the other.
-/

namespace TileEngine

namespace Bitmap

/-- The position of the `i`-th value when a row holds the bitmap's width, or one
value where the bitmap has no column. -/
def rowMajor (b : Bitmap) (i : Nat) : Vec2 :=
  let width := max 1 b.size.x.toNat
  ⟨(i % width).toUInt16, (i / width).toUInt16⟩

/-- Stores indices in row order. -/
def paintIndices (b : Bitmap) : Nat → List UInt8 → Except BitmapError Bitmap
  | _, [] => .ok b
  | i, index :: rest =>
    match b.setIndex (b.rowMajor i) index with
    | .ok b => b.paintIndices (i + 1) rest
    | .error e => .error e

/-- Stores colours in row order. -/
def paintColors (b : Bitmap) : Nat → List Color → Bitmap
  | _, [] => b
  | i, color :: rest => (b.setColor (b.rowMajor i) color).paintColors (i + 1) rest

/-- Groups bytes into colours; an incomplete last group is dropped. -/
def colorsOfBytes : List UInt8 → List Color
  | r :: g :: b :: rest => ⟨r, g, b⟩ :: colorsOfBytes rest
  | _ => []

/-- Stores indices, then the colours of a list of bytes. -/
def paint (b : Bitmap) (indices colors : List UInt8) : Except BitmapError Bitmap := do
  let b ← b.paintIndices 0 indices
  return b.paintColors 0 (colorsOfBytes colors)

end Bitmap

end TileEngine
