/-!
Opaque colours with eight bits per channel, their packed form and the squared
distance that nearest-colour searches compare.
-/

namespace TileEngine

/-- An opaque colour: eight bits each of red, green and blue. -/
structure Color where
  red : UInt8
  green : UInt8
  blue : UInt8
  deriving DecidableEq, Repr, Inhabited

namespace Color

/-- No light in any channel; what a pixel without a palette entry shows. -/
def black : Color := ⟨0, 0, 0⟩

/-- Full light in every channel. -/
def white : Color := ⟨255, 255, 255⟩

/-- Unpacks `0x00RRGGBB`; the top byte is ignored. -/
def ofRgb (rgb : UInt32) : Color :=
  ⟨(rgb >>> 16).toUInt8, (rgb >>> 8).toUInt8, rgb.toUInt8⟩

/-- Packs the channels as `0x00RRGGBB`. -/
def toRgb (c : Color) : UInt32 :=
  (c.red.toUInt32 <<< 16) ||| (c.green.toUInt32 <<< 8) ||| c.blue.toUInt32

/-- The signed difference of two channel values. -/
def channelGap (a b : UInt8) : Int := (a.toNat : Int) - (b.toNat : Int)

/-- Squared Euclidean distance in channel space. -/
def distanceSquared (a b : Color) : Nat :=
  let r := channelGap a.red b.red
  let g := channelGap a.green b.green
  let b := channelGap a.blue b.blue
  (r * r + g * g + b * b).toNat

/-- The diagnostic text of a colour. -/
def describe (c : Color) : String :=
  "Color \x7b red: " ++ toString c.red.toNat ++ ", green: " ++ toString c.green.toNat ++
    ", blue: " ++ toString c.blue.toNat ++ " \x7d"

end Color

end TileEngine
