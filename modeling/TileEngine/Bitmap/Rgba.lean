import TileEngine.Bitmap.Pixel

/-!
RGBA images and their exchange with bitmaps. A bitmap takes the colour channels
of an image and gives back opaque pixels.
-/

namespace TileEngine

/-- Four bytes: a colour and its opacity. -/
structure Rgba where
  red : UInt8
  green : UInt8
  blue : UInt8
  alpha : UInt8
  deriving DecidableEq, Repr, Inhabited

namespace Rgba

/-- The colour without its opacity. -/
def color (p : Rgba) : Color := ⟨p.red, p.green, p.blue⟩

/-- A colour that nothing shines through. -/
def opaqueOf (c : Color) : Rgba := ⟨c.red, c.green, c.blue, 255⟩

/-- The bytes in memory order. -/
def bytes (p : Rgba) : List UInt8 := [p.red, p.green, p.blue, p.alpha]

end Rgba

/-- An image of RGBA pixels, row by row, with dimensions of any size. -/
structure RgbaImage where
  width : Nat
  height : Nat
  pixels : Array Rgba
  deriving DecidableEq, Repr, Inhabited

namespace RgbaImage

/-- The image of one pixel value. -/
def ofPixel (width height : Nat) (pixel : Rgba) : RgbaImage :=
  ⟨width, height, Array.replicate (width * height) pixel⟩

/-- Groups bytes into pixels; an incomplete last group is dropped. -/
def pixelsOfBytes : List UInt8 → List Rgba
  | r :: g :: b :: a :: rest => ⟨r, g, b, a⟩ :: pixelsOfBytes rest
  | _ => []

/-- The image of the given bytes, four for each pixel. -/
def ofBytes (width height : Nat) (data : List UInt8) : RgbaImage :=
  ⟨width, height, (pixelsOfBytes data).toArray⟩

/-- All bytes of the image in memory order. -/
def bytes (image : RgbaImage) : List UInt8 := image.pixels.toList.flatMap Rgba.bytes

/-- Whether both dimensions are 16-bit words. -/
def fits (image : RgbaImage) : Bool := image.width < 65536 && image.height < 65536

/-- The pixel at a column and a row. -/
def get? (image : RgbaImage) (x y : Nat) : Option Rgba :=
  if x < image.width && y < image.height then image.pixels[y * image.width + x]? else none

/-- Replaces the pixel at a column and a row; others are left alone. -/
def set (image : RgbaImage) (x y : Nat) (pixel : Rgba) : RgbaImage :=
  if x < image.width && y < image.height then
    { image with pixels := image.pixels.setIfInBounds (y * image.width + x) pixel }
  else image

end RgbaImage

namespace Bitmap

/-- The true-colour bitmap of an image, without its opacity. -/
def ofRgba (image : RgbaImage) : Except BitmapError Bitmap :=
  if image.fits then
    let size : Vec2 := ⟨image.width.toUInt16, image.height.toUInt16⟩
    .ok (scan size
      (fun x y out => out.writeTexel x y ((image.get? x y).getD (Rgba.opaqueOf .black)).color)
      (blank size .trueColor32 Palette.empty))
  else .error (.tooLarge image.width image.height)

/-- The opaque image of what a bitmap shows. -/
def toRgba (b : Bitmap) : RgbaImage :=
  let pixels := scan b.size
    (fun x y (out : Array Rgba) =>
      out.push (Rgba.opaqueOf ((b.colorAt ⟨x.toUInt16, y.toUInt16⟩).getD .black))) #[]
  ⟨b.size.x.toNat, b.size.y.toNat, pixels⟩

end Bitmap

end TileEngine
