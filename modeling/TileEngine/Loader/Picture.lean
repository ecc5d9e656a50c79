import TileEngine.Loader.Script
import TileEngine.Png.Picture

/-!
The loader of PNG files, which become true-colour bitmaps without opacity.
-/

namespace TileEngine

namespace Loader

/-- A file is accepted by its signature. -/
def probePng (s : ByteStream) : Probe :=
  match s.read 8 with
  | (.ok bytes, s) => ⟨bytes.toList == Png.signature, s, []⟩
  | (.error _, s) => ⟨false, s, []⟩

/-- Decodes the whole stream into a bitmap. -/
def decodePng (s : ByteStream) (context : LoadContext) : LoadScript :=
  match s.readToEnd.1 with
  | .error cause => .fail (.stream cause)
  | .ok bytes =>
    match Png.decode? bytes with
    | none => .fail (.damagedPng context.key.name)
    | some image =>
      match Bitmap.ofRgba image with
      | .error cause => .fail (.bitmap cause)
      | .ok bitmap =>
        .record (.pictureDecoded context.key.name bitmap.size) (.finish (.bitmap bitmap))

/-- The loader of PNG files. -/
def png : Loader where
  supports kind := kind == .bitmap
  probe := probePng
  opening _ _ := []
  decode := decodePng

end Loader

end TileEngine
