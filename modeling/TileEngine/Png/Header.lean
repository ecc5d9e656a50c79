import TileEngine.Png.Chunk

/-!
The image header: dimensions, sample depth, the meaning of a pixel's samples and
the order in which rows are stored.
-/

namespace TileEngine.Png

/-- What the samples of one pixel are. -/
inductive ColorType where
  | gray
  | rgb
  | indexed
  | grayAlpha
  | rgba
  deriving DecidableEq, Repr

namespace ColorType

/-- The colour type with a number. -/
def ofCode? (code : UInt8) : Option ColorType :=
  if code = 0 then some .gray
  else if code = 2 then some .rgb
  else if code = 3 then some .indexed
  else if code = 4 then some .grayAlpha
  else if code = 6 then some .rgba
  else none

/-- Samples of one pixel. -/
def channels : ColorType → Nat
  | .gray => 1
  | .rgb => 3
  | .indexed => 1
  | .grayAlpha => 2
  | .rgba => 4

/-- The sample depths that may be used. -/
def depths : ColorType → List Nat
  | .gray => [1, 2, 4, 8, 16]
  | .indexed => [1, 2, 4, 8]
  | _ => [8, 16]

end ColorType

/-- The content of an image header. -/
structure Header where
  width : Nat
  height : Nat
  depth : Nat
  color : ColorType
  interlaced : Bool
  deriving DecidableEq, Repr

namespace Header

/-- Bits of one pixel. -/
def pixelBits (h : Header) : Nat := h.depth * h.color.channels

/-- Bytes of a row of a number of pixels. -/
def rowBytes (h : Header) (width : Nat) : Nat := (width * h.pixelBits + 7) / 8

/-- Bytes from a sample to the one it is predicted from. -/
def step (h : Header) : Nat := max 1 (h.pixelBits / 8)

/-- Reads the data of a header chunk. -/
def ofData? (data : Array UInt8) : Option Header := do
  let width ← word? data 0
  let height ← word? data 4
  let depth ← data[8]?
  let color ← ColorType.ofCode? (← data[9]?)
  let compression ← data[10]?
  let filter ← data[11]?
  let interlace ← data[12]?
  if width = 0 || height = 0 then none
  if !color.depths.contains depth.toNat then none
  if compression != 0 || filter != 0 || interlace > 1 then none
  return ⟨width, height, depth.toNat, color, interlace == 1⟩

end Header

end TileEngine.Png
