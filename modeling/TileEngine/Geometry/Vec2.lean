/-!
Pixel coordinates and extents. Components are 16-bit words, so every position
and size a bitmap can have is a `Vec2`, and sums are taken in `Nat`.
-/

namespace TileEngine

/-- A pair of 16-bit components, read as a position or as a size. -/
structure Vec2 where
  x : UInt16
  y : UInt16
  deriving DecidableEq, Repr, Inhabited

namespace Vec2

/-- The origin. -/
def zero : Vec2 := ⟨0, 0⟩

/-- The number of pixels of an extent. -/
def area (v : Vec2) : Nat := v.x.toNat * v.y.toNat

/-- Component-wise minimum. -/
def clamp (v limits : Vec2) : Vec2 := ⟨min v.x limits.x, min v.y limits.y⟩

/-- The difference of two words, or zero where it would be negative. -/
def wordSub (a b : UInt16) : UInt16 := if b ≤ a then a - b else 0

/-- Component-wise difference that stops at zero. -/
def saturatingSub (v w : Vec2) : Vec2 := ⟨wordSub v.x w.x, wordSub v.y w.y⟩

/-- A position inside an extent anchored at the origin. -/
def inside (p size : Vec2) : Bool := p.x < size.x && p.y < size.y

end Vec2

end TileEngine
