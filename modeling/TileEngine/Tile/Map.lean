import TileEngine.Tile.Set

/-!
Tile maps: grids of tile numbers that are drawn with one tile set.
-/

namespace TileEngine

/-- A grid of tile numbers in row order, and the tile set it is drawn with. -/
structure TileMap where
  size : Vec2
  cells : Array UInt16
  tileset : Option Tileset
  deriving DecidableEq, Repr, Inhabited

namespace TileMap

/-- A map of empty cells without a tile set. -/
def new (size : Vec2) : TileMap := ⟨size, Array.replicate size.area 0, none⟩

/-- The place of a cell in row order; none outside the map. -/
def place? (m : TileMap) (p : Vec2) : Option Nat :=
  if p.inside m.size then some (p.y.toNat * m.size.x.toNat + p.x.toNat) else none

/-- The number in a cell. -/
def tile? (m : TileMap) (p : Vec2) : Option UInt16 := (m.place? p).map (m.cells.getD · 0)

/-- Writes the number of a cell; the flag says whether the cell is in the map. -/
def setTile (m : TileMap) (p : Vec2) (gid : UInt16) : TileMap × Bool :=
  match m.place? p with
  | some place => ({ m with cells := m.cells.setIfInBounds place gid }, true)
  | none => (m, false)

/-- The position of the `i`-th cell in row order. -/
def rowMajor (m : TileMap) (i : Nat) : Vec2 :=
  let width := max 1 m.size.x.toNat
  ⟨(i % width).toUInt16, (i / width).toUInt16⟩

/-- Writes numbers in row order from the `i`-th cell on; the flag says whether
all cells were in the map. -/
def setTiles (m : TileMap) : Nat → List UInt16 → TileMap × Bool
  | _, [] => (m, true)
  | i, gid :: rest =>
    let (m, here) := m.setTile (m.rowMajor i) gid
    let (m, others) := m.setTiles (i + 1) rest
    (m, here && others)

/-- The largest number in any cell. -/
def highest (m : TileMap) : UInt16 := m.cells.foldl max 0

/-- Where a cell is drawn when the map starts at an origin; none when that is no
position. -/
def cellPosition? (t : Tileset) (origin : Vec2) (x y : Nat) : Option Vec2 := do
  let px ← Tileset.word? (origin.x.toNat + x * t.tileSize.x.toNat)
  let py ← Tileset.word? (origin.y.toNat + y * t.tileSize.y.toNat)
  return ⟨px, py⟩

/-- Draws one cell; an empty one draws nothing. -/
def drawCell (m : TileMap) (t : Tileset) (image : Bitmap) (origin : Vec2) (x y : Nat)
    (destination : Bitmap) : Except PlaceFault Bitmap :=
  match (m.tile? ⟨x.toUInt16, y.toUInt16⟩).bind t.tileForGid with
  | none => .ok destination
  | some tile =>
    match cellPosition? t origin x y with
    | none => .ok destination
    | some p => t.drawTile image tile destination p

/-- Draws some cells one after the other. A fault ends the drawing; what was drawn before stays. -/
def drawCells (m : TileMap) (t : Tileset) (image : Bitmap) (origin : Vec2) :
    List (Nat × Nat) → Bitmap → Bitmap × Except PlaceFault Unit
  | [], destination => (destination, .ok ())
  | cell :: rest, destination =>
    match m.drawCell t image origin cell.1 cell.2 destination with
    | .ok destination => m.drawCells t image origin rest destination
    | .error fault => (destination, .error fault)

/-- The cells of a map, row by row. -/
def grid (m : TileMap) : List (Nat × Nat) :=
  (List.range m.size.y.toNat).flatMap fun y => (List.range m.size.x.toNat).map fun x => (x, y)

/-- Draws all cells row by row. -/
def drawWith (m : TileMap) (t : Tileset) (image destination : Bitmap) (origin : Vec2) :
    Bitmap × Except PlaceFault Unit :=
  m.drawCells t image origin m.grid destination

end TileMap

end TileEngine
