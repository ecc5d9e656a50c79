import TileEngine.Geometry.Vec2

/-!
Axis-aligned rectangles and the two ways a rectangle is cut down: to the bounds
of one surface, and to what two surfaces have in common when a rectangle of the
one is placed at a position of the other.
-/

namespace TileEngine

/-- A rectangle given by its top-left corner and its extent. -/
structure Rect where
  origin : Vec2
  size : Vec2
  deriving DecidableEq, Repr, Inhabited

namespace Rect

/-- The rectangle from its four components. -/
def ofParts (x y width height : UInt16) : Rect := ⟨⟨x, y⟩, ⟨width, height⟩⟩

/-- The rectangle of a given size whose corner is the origin. -/
def ofSize (size : Vec2) : Rect := ⟨Vec2.zero, size⟩

/-- The first column and the first row past the rectangle. -/
def limit (r : Rect) : Nat × Nat :=
  (r.origin.x.toNat + r.size.x.toNat, r.origin.y.toNat + r.size.y.toNat)

/-- The number of pixels covered. -/
def area (r : Rect) : Nat := r.size.area

/-- A rectangle without a pixel. -/
def isEmpty (r : Rect) : Bool := r.size.x == 0 || r.size.y == 0

/-- Whether a point is covered. -/
def contains (r : Rect) (p : Vec2) : Bool :=
  r.origin.x ≤ p.x && r.origin.y ≤ p.y &&
    (decide (p.x.toNat < r.limit.1) && decide (p.y.toNat < r.limit.2))

/-- Cuts a rectangle to an extent anchored at the origin: the corner is moved
inside first, then the size is cut to what is left. -/
def clampedTo (r : Rect) (bounds : Vec2) : Rect :=
  let origin := r.origin.clamp bounds
  ⟨origin, r.size.clamp (bounds.saturatingSub origin)⟩

/-- Cuts a source rectangle to its surface and to the room that a destination
has at a position; none when no pixel is left. -/
def clip (source destination : Vec2) (r : Rect) (position : Vec2) : Option Rect :=
  let r := r.clampedTo source
  let size := r.size.clamp (destination.saturatingSub position)
  if size.x == 0 || size.y == 0 then none else some ⟨r.origin, size⟩

end Rect

end TileEngine
