import TileEngine.Bitmap.Blit
import TileEngine.Resource.Handle

/-!
Tile sets: a grid of equal tiles in one image, with a margin around the grid and
gaps between the tiles. Tiles are numbered row by row from zero.
-/

namespace TileEngine

/-- What stops the computation of a place: a product or a sum that is no word of 32 bits. -/
inductive PlaceFault where
  | product
  | sum
  deriving DecidableEq, Repr

/-- The wording with which the program panics. -/
def PlaceFault.message : PlaceFault → String
  | .product => "attempt to multiply with overflow"
  | .sum => "attempt to add with overflow"

/-- A tile set; without a fixed number of columns it takes as many as fit the
width of the image. -/
structure Tileset where
  image : Handle
  tileSize : Vec2
  tileCount : UInt16
  firstGid : UInt16
  margin : UInt16
  spacing : UInt16
  columns : Option UInt16
  deriving DecidableEq, Repr, Inhabited

namespace Tileset

/-- The tile that a map number stands for; zero and numbers below the first one
stand for an empty cell. -/
def tileForGid (t : Tileset) (gid : UInt16) : Option UInt16 :=
  if gid = 0 || gid < t.firstGid then none else some (gid - t.firstGid)

/-- From the start of a column to the start of the next. -/
def columnStep (t : Tileset) : Nat := t.tileSize.x.toNat + t.spacing.toNat

/-- From the start of a row to the start of the next. -/
def rowStep (t : Tileset) : Nat := t.tileSize.y.toNat + t.spacing.toNat

/-- Tiles in one row of an image of some width. -/
def columnsFor (t : Tileset) (width : UInt16) : UInt16 :=
  match t.columns with
  | some columns => columns
  | none =>
    if t.columnStep = 0 then 0
    else
      let usable := width.toNat - 2 * t.margin.toNat + t.spacing.toNat
      (min (usable / t.columnStep) 65535).toUInt16

/-- A number as a 16-bit word, if it is one. -/
def word? (n : Nat) : Option UInt16 := if n < 65536 then some n.toUInt16 else none

/-- A result as a word of 32 bits; a greater one is a fault. -/
def checked (fault : PlaceFault) (n : Nat) : Except PlaceFault Nat :=
  if n < 4294967296 then .ok n else .error fault

/-- Where the `n`-th of some columns or rows starts that are a step apart. -/
def startOf (t : Tileset) (n : UInt16) (step : Nat) : Except PlaceFault Nat := do
  let distance ← checked .product (n.toNat * step)
  checked .sum (t.margin.toNat + distance)

/-- The rectangle of a tile that starts at some place; none when that is no position. -/
def rectAt? (t : Tileset) (left top : Nat) : Option Rect := do
  let x ← word? left
  let y ← word? top
  return ⟨⟨x, y⟩, t.tileSize⟩

/-- Where a tile lies in an image of some width. Both starts are computed before either is
narrowed. -/
def tileRect? (t : Tileset) (tile width : UInt16) : Except PlaceFault (Option Rect) :=
  if tile ≥ t.tileCount then .ok none
  else
    let columns := t.columnsFor width
    if columns = 0 then .ok none
    else do
      let left ← t.startOf (tile % columns) t.columnStep
      let top ← t.startOf (tile / columns) t.rowStep
      return t.rectAt? left top

/-- Copies a tile out of the image; an unknown tile draws nothing. -/
def drawTile (t : Tileset) (image : Bitmap) (tile : UInt16) (destination : Bitmap) (p : Vec2) :
    Except PlaceFault Bitmap :=
  match t.tileRect? tile image.size.x with
  | .ok (some r) => .ok (destination.blit image r p)
  | .ok none => .ok destination
  | .error fault => .error fault

end Tileset

end TileEngine
