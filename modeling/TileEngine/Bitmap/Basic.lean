import TileEngine.Geometry.Rect
import TileEngine.Palette
import TileEngine.Bitmap.Depth

/-!
Bitmaps: a size, a pixel encoding, a palette and one buffer of rows. Rows are
padded to whole 32-bit words. This module holds construction and the palette of
a bitmap; single pixels are in `TileEngine.Bitmap.Pixel`.
-/

namespace TileEngine

/-- Why a bitmap operation is refused. -/
inductive BitmapError where
  | invalidPaletteSize (depth : Depth) (requested max : Nat)
  | palette (cause : PaletteError)
  | notIndexed (depth : Depth)
  | tooLarge (width height : Nat)
  deriving DecidableEq, Repr

/-- The wording of a bitmap error; a palette error keeps its own. -/
def BitmapError.message : BitmapError → String
  | .invalidPaletteSize depth requested max =>
    s!"a {depth.label} bitmap supports at most {max} palette colors, {requested} were requested"
  | .palette cause => cause.message
  | .notIndexed depth => s!"{depth.label} bitmaps store colors, not palette indices"
  | .tooLarge width height => s!"an image of {width}x{height} exceeds the maximum bitmap size"

/-- A bitmap: `depth.stride size.x` bytes for each of its `size.y` rows. -/
structure Bitmap where
  size : Vec2
  depth : Depth
  pixels : Array UInt8
  palette : Palette
  deriving DecidableEq, Repr, Inhabited

namespace Bitmap

/-- Bytes between the starts of two rows. -/
def stride (b : Bitmap) : Nat := b.depth.stride b.size.x

/-- The rectangle of all pixels. -/
def bounds (b : Bitmap) : Rect := Rect.ofSize b.size

/-- A zeroed bitmap with a palette that is known to fit. -/
def blank (size : Vec2) (depth : Depth) (palette : Palette) : Bitmap :=
  ⟨size, depth, Array.replicate (depth.stride size.x * size.y.toNat) 0, palette⟩

/-- Refuses a palette length that the depth cannot address. -/
def checkPalette (depth : Depth) (requested : Nat) : Except BitmapError Unit :=
  if requested > depth.maxPalette then
    .error (.invalidPaletteSize depth requested depth.maxPalette)
  else .ok ()

/-- A zeroed bitmap with a palette of black entries. -/
def new (size : Vec2) (depth : Depth) (paletteLen : Nat) : Except BitmapError Bitmap := do
  checkPalette depth paletteLen
  let palette ← (Palette.ofLen paletteLen).mapError .palette
  return blank size depth palette

/-- A zeroed bitmap with the given palette. -/
def withPalette (size : Vec2) (depth : Depth) (palette : Palette) : Except BitmapError Bitmap := do
  checkPalette depth palette.len
  return blank size depth palette

/-- Replaces the palette. -/
def setPalette (b : Bitmap) (palette : Palette) : Except BitmapError Bitmap := do
  checkPalette b.depth palette.len
  return { b with palette := palette }

/-- Replaces one palette entry. -/
def setPaletteColor (b : Bitmap) (index : Nat) (color : Color) : Except BitmapError Bitmap := do
  let palette ← (b.palette.set index color).mapError .palette
  return { b with palette := palette }

/-- The palette that pixels are read with: a one-bit bitmap without a palette
shows black and white. -/
def effectivePalette (b : Bitmap) : Palette :=
  if b.depth == .mono1 && b.palette.isEmpty then Palette.monochrome else b.palette

/-- Two bitmaps agree when size, depth, active palette and all bytes do. -/
def same (a b : Bitmap) : Bool :=
  a.size == b.size && a.depth == b.depth && a.pixels == b.pixels && a.palette.same b.palette

end Bitmap

end TileEngine
