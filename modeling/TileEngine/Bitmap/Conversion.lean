import TileEngine.Bitmap.Pixel

/-!
Changing the encoding of a bitmap. Between two indexed depths every stored index
goes through one table of 256 entries; into true colour the palette is looked
up; out of it each colour takes its nearest entry, which is searched for once.
-/

namespace TileEngine

/-- For every index a pixel may store, the nearest entry of another palette to
the colour that the index shows. -/
def Palette.remapTable (source target : Palette) : Array UInt8 :=
  ((List.range 256).map fun index => target.nearestIndex (source.shown index)).toArray

namespace Bitmap

/-- One pixel on the way out of true colour. The entries that were found so far are kept by
colour, and only a colour that was not met before is searched for. -/
def quantize (b : Bitmap) (target : Palette) (x y : Nat) :
    Bitmap × List (Color × UInt8) → Bitmap × List (Color × UInt8)
  | (out, found) =>
    let color := b.readTexel x y
    match found.lookup color with
    | some index => (out.writeIndex x y index, found)
    | none =>
      let index := target.nearestIndex color
      (out.writeIndex x y index, (color, index) :: found)

/-- The bitmap in another encoding, with a palette that is known to fit. -/
def convertInto (b : Bitmap) (depth : Depth) (palette : Palette) : Bitmap :=
  let out := blank b.size depth palette
  match b.depth.isIndexed, depth.isIndexed with
  | true, true =>
    let table := b.effectivePalette.remapTable out.effectivePalette
    scan b.size (fun x y out => out.writeIndex x y (table.getD (b.readIndex x y).toNat 0)) out
  | true, false =>
    let source := b.effectivePalette
    scan b.size (fun x y out => out.writeTexel x y (source.shown (b.readIndex x y).toNat)) out
  | false, true =>
    (scan b.size (b.quantize out.effectivePalette) (out, [])).1
  | false, false => { out with pixels := b.pixels }

/-- Appends a colour that the palette does not show yet, while there is room. -/
def collect (palette : Palette) (color : Color) : Palette :=
  if palette.active.contains color then palette
  else match palette.push color with
    | .ok (grown, _) => grown
    | .error _ => palette

/-- The first 256 different colours of a true-colour bitmap in row order. -/
def distinctColors (b : Bitmap) : Palette :=
  scan b.size (fun x y palette => collect palette (b.readTexel x y)) Palette.empty

/-- The palette that an automatic conversion gives its result: the current one
where it fits, else black and white, or the colours that are there. -/
def paletteFor (b : Bitmap) (depth : Depth) : Palette :=
  let current := b.effectivePalette
  match depth with
  | .trueColor32 => b.palette
  | .mono1 => if current.isEmpty || current.len > 2 then Palette.monochrome else current
  | .indexed8 => if current.isEmpty then b.distinctColors else current

/-- Converts with an automatic palette; none when the depth is the same. -/
def convert? (b : Bitmap) (depth : Depth) : Option Bitmap :=
  if depth = b.depth then none else some (b.convertInto depth (b.paletteFor depth))

/-- Converts with the given palette; none when depth and palette are the same. -/
def convertWith (b : Bitmap) (depth : Depth) (palette : Palette) :
    Except BitmapError (Option Bitmap) := do
  if depth = b.depth && b.palette.same palette then return none
  checkPalette depth palette.len
  return some (b.convertInto depth palette)

end Bitmap

end TileEngine
