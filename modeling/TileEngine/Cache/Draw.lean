import TileEngine.Cache.Load

/-!
Drawing with what the cache holds: the image of a tile set is loaded when it is
first needed, and nothing is drawn without it.
-/

namespace TileEngine

/-- A fault in the place of a tile is a panic. -/
def Failure.ofPlace (fault : PlaceFault) : Failure := .panic fault.message

namespace Cache

/-- The image behind a handle, or none when it cannot be had; a panic passes. -/
def image? (c : Cache) (h : Handle) : Cache × Except Failure (Option Bitmap) :=
  match c.get h with
  | (c, .ok (_, .bitmap b)) => (c, .ok (some b))
  | (c, .ok _) => (c, .ok none)
  | (c, .error (.error _)) => (c, .ok none)
  | (c, .error failure) => (c, .error failure)

/-- Where a tile lies in the image of its set. -/
def tileRect? (c : Cache) (t : Tileset) (tile : UInt16) : Cache × Except Failure (Option Rect) :=
  match c.image? t.image with
  | (c, .ok (some image)) => (c, (t.tileRect? tile image.size.x).mapError .ofPlace)
  | (c, .ok none) => (c, .ok none)
  | (c, .error failure) => (c, .error failure)

/-- Draws one tile. -/
def drawTile (c : Cache) (t : Tileset) (tile : UInt16) (destination : Bitmap) (p : Vec2) :
    Cache × Except Failure Bitmap :=
  match c.image? t.image with
  | (c, .ok (some image)) => (c, (t.drawTile image tile destination p).mapError .ofPlace)
  | (c, .ok none) => (c, .ok destination)
  | (c, .error failure) => (c, .error failure)

/-- Draws a map with its first cell at an origin. The bitmap is given back as the call leaves it,
also when a panic ends the drawing halfway. -/
def drawMap (c : Cache) (m : TileMap) (destination : Bitmap) (origin : Vec2) :
    Cache × Bitmap × Except Failure Unit :=
  match m.tileset with
  | none => (c, destination, .ok ())
  | some t =>
    match c.image? t.image with
    | (c, .ok (some image)) =>
      let (out, ended) := m.drawWith t image destination origin
      (c, out, ended.mapError .ofPlace)
    | (c, .ok none) => (c.record .drawnBlind, destination, .ok ())
    | (c, .error failure) => (c, destination, .error failure)

end Cache

end TileEngine
