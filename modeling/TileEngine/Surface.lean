import TileEngine.Bitmap.Rgba

/-!
Surfaces: anything with pixels that have a position and a colour. Between any
two surfaces a rectangle can be copied pixel by pixel.
-/

namespace TileEngine

/-- What has a size, an encoding, and pixels to read and write. -/
class Surface (σ : Type) where
  size : σ → Vec2
  depth : σ → Depth
  getPixel : σ → Vec2 → Option Color
  setPixel : σ → Vec2 → Color → σ

instance : Surface Bitmap where
  size b := b.size
  depth b := b.depth
  getPixel := Bitmap.colorAt
  setPixel := Bitmap.setColor

/-- A surface over an image whose dimensions are words. Opacity is ignored on
reading and full after writing. -/
structure RgbaSurface where
  image : RgbaImage
  deriving DecidableEq, Repr, Inhabited

namespace RgbaSurface

/-- A black surface. -/
def new (size : Vec2) : RgbaSurface :=
  ⟨RgbaImage.ofPixel size.x.toNat size.y.toNat (Rgba.opaqueOf .black)⟩

/-- The surface over an image. -/
def ofImage (image : RgbaImage) : Except BitmapError RgbaSurface :=
  if image.fits then .ok ⟨image⟩ else .error (.tooLarge image.width image.height)

/-- The size in pixels. -/
def size (s : RgbaSurface) : Vec2 := ⟨s.image.width.toUInt16, s.image.height.toUInt16⟩

end RgbaSurface

instance : Surface RgbaSurface where
  size := RgbaSurface.size
  depth _ := .trueColor32
  getPixel s p := (s.image.get? p.x.toNat p.y.toNat).map Rgba.color
  setPixel s p c := ⟨s.image.set p.x.toNat p.y.toNat (Rgba.opaqueOf c)⟩

namespace Surface

/-- A position moved by a column and a row, in 16-bit words. -/
def offset (p : Vec2) (x y : Nat) : Vec2 := ⟨p.x + x.toUInt16, p.y + y.toUInt16⟩

/-- Copies a rectangle pixel by pixel; it is cut to both surfaces first. -/
def blit {σ τ : Type} [Surface σ] [Surface τ] (dst : σ) (src : τ) (r : Rect) (p : Vec2) : σ :=
  match Rect.clip (size src) (size dst) r p with
  | none => dst
  | some r =>
    Bitmap.scan r.size
      (fun x y out =>
        match getPixel src (offset r.origin x y) with
        | some color => setPixel out (offset p x y) color
        | none => out) dst

end Surface

end TileEngine
