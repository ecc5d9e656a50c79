import TileEngine.Proofs.Tile.Places
import TileEngine.Tile.Map

/-!
Cells of a map. They lie side by side from the origin on, so that a position falls into one
of them at most; its tile says which pixel of the image belongs there. What the map shows at
a position is therefore what that one cell shows. Where the place of a tile that is to be drawn
is a fault, so is the cell, and a program that draws the map ends there.
-/

namespace TileEngine

namespace Rect

variable {r : Rect} {source p q s : Vec2}

/-- A source pixel belongs to a position inside the rectangle with its corner at `p`. -/
theorem within_of_sourceOf (taken : r.sourceOf source p q = some s) :
    (p.x.toNat ≤ q.x.toNat ∧ p.y.toNat ≤ q.y.toNat) ∧
      q.x.toNat - p.x.toNat < r.size.x.toNat ∧ q.y.toNat - p.y.toNat < r.size.y.toNat := by
  unfold sourceOf limit at taken
  dsimp only at taken
  split at taken
  · omega
  · contradiction

/-- Inside the rectangle there is a source pixel as far as the source reaches. -/
theorem sourceOf_of_within (past : p.x.toNat ≤ q.x.toNat ∧ p.y.toNat ≤ q.y.toNat)
    (right : q.x.toNat - p.x.toNat < r.size.x.toNat)
    (bottom : q.y.toNat - p.y.toNat < r.size.y.toNat) :
    r.sourceOf source p q =
      if r.origin.x.toNat + (q.x.toNat - p.x.toNat) < source.x.toNat ∧
          r.origin.y.toNat + (q.y.toNat - p.y.toNat) < source.y.toNat then
        some (Vec2.ofNats (r.origin.x.toNat + (q.x.toNat - p.x.toNat))
          (r.origin.y.toNat + (q.y.toNat - p.y.toNat)))
      else none := by
  unfold sourceOf limit
  refine if_congr ?_ rfl rfl
  omega

end Rect

namespace Tileset

/-- The rectangle of a tile in an image of some width, if it has one. -/
def rectangle? (t : Tileset) (tile width : UInt16) : Option Rect :=
  match t.tileRect? tile width with
  | .ok r => r
  | .error _ => none

theorem rectangle?_eq_some {t : Tileset} {tile width : UInt16} {r : Rect} :
    t.rectangle? tile width = some r ↔ t.tileRect? tile width = .ok (some r) := by
  unfold rectangle?
  cases t.tileRect? tile width with
  | ok found => simp only [Except.ok.injEq]
  | error fault => simp only [reduceCtorEq]

/-- The cell that a position falls into when the first one starts at an origin. -/
def cellAt (t : Tileset) (origin q : Vec2) : Nat × Nat :=
  ((q.x.toNat - origin.x.toNat) / t.tileSize.x.toNat,
    (q.y.toNat - origin.y.toNat) / t.tileSize.y.toNat)

end Tileset

namespace TileMap

/-- The pixel of the image that the map shows at position `q` when it starts at an origin:
in the cell that `q` falls into, the pixel of its tile as far from the corner. None outside
the map, in an empty cell, and where the tile or the image has no such pixel. -/
def pixelFor (m : TileMap) (t : Tileset) (image origin q : Vec2) : Option Vec2 :=
  let right := q.x.toNat - origin.x.toNat
  let down := q.y.toNat - origin.y.toNat
  let column := right / t.tileSize.x.toNat
  let row := down / t.tileSize.y.toNat
  if origin.x.toNat ≤ q.x.toNat ∧ origin.y.toNat ≤ q.y.toNat then do
    let gid ← m.tile? (Vec2.ofNats column row)
    let tile ← t.tileForGid gid
    let _corner ← cellPosition? t origin column row
    let r ← t.rectangle? tile image.x
    let x := r.origin.x.toNat + right % t.tileSize.x.toNat
    let y := r.origin.y.toNat + down % t.tileSize.y.toNat
    if x < image.x.toNat ∧ y < image.y.toNat then some (Vec2.ofNats x y) else none
  else none

/-- The part of the image that one cell copies, and where its corner goes. None in an empty cell,
and where the corner is no position or the tile has no rectangle. -/
def cellBlit? (m : TileMap) (t : Tileset) (image origin : Vec2) (x y : Nat) :
    Option (Rect × Vec2) := do
  let gid ← m.tile? (Vec2.ofNats x y)
  let tile ← t.tileForGid gid
  let corner ← cellPosition? t origin x y
  let r ← t.rectangle? tile image.x
  return (r, corner)

/-- The fault at one cell: that in the place of its tile, if the cell is not empty and its corner
is a position. -/
def cellFault? (m : TileMap) (t : Tileset) (image origin : Vec2) (x y : Nat) :
    Option PlaceFault := do
  let gid ← m.tile? (Vec2.ofNats x y)
  let tile ← t.tileForGid gid
  let _corner ← cellPosition? t origin x y
  match t.tileRect? tile image.x with
  | .ok _ => none
  | .error fault => some fault

/-- No cell of a list is a fault. -/
def Clear (m : TileMap) (t : Tileset) (image origin : Vec2) (cells : List (Nat × Nat)) : Prop :=
  ∀ cell ∈ cells, m.cellFault? t image origin cell.1 cell.2 = none

/-- The pixel of the image that one cell of the map shows at position `q`. -/
def cellPixel (m : TileMap) (t : Tileset) (image origin : Vec2) (x y : Nat) (q : Vec2) :
    Option Vec2 :=
  (m.cellBlit? t image origin x y).bind fun blit => blit.1.sourceOf image blit.2 q

variable {m : TileMap} {t : Tileset} {size origin q s : Vec2} {x y : Nat}

theorem cellPosition?_eq_some {corner : Vec2} :
    cellPosition? t origin x y = some corner ↔
      origin.x.toNat + x * t.tileSize.x.toNat = corner.x.toNat ∧
        origin.y.toNat + y * t.tileSize.y.toNat = corner.y.toNat := by
  obtain ⟨px, py⟩ := corner
  simp only [cellPosition?, Option.bind_eq_bind, Option.bind_eq_some_iff, Tileset.word?_eq_some,
    Option.pure_def, Option.some.injEq, Vec2.mk.injEq]
  constructor
  · rintro ⟨a, ha, b, hb, rfl, rfl⟩
    exact ⟨ha, hb⟩
  · rintro ⟨ha, hb⟩
    exact ⟨px, ha, py, hb, rfl, rfl⟩

/-- Along one axis: the cell of width `w` that starts at `corner` and reaches past `q` is
the one that `q` falls into. -/
private theorem cell_axis {o n w corner q : Nat} (starts : o + n * w = corner) (le : corner ≤ q)
    (inner : q - corner < w) : o ≤ q ∧ n = (q - o) / w := by
  have shift : q - o = (q - corner) + w * n := by
    rw [Nat.mul_comm w n]
    omega
  refine ⟨by omega, ?_⟩
  rw [shift, Nat.add_mul_div_left _ _ (Nat.zero_lt_of_lt inner), Nat.div_eq_of_lt inner,
    Nat.zero_add]

/-- And the cell that `q` falls into starts before `q`, at the remainder of the division. -/
private theorem axis_cell {o w corner q : Nat} (pos : 0 < w) (le : o ≤ q)
    (starts : o + (q - o) / w * w = corner) :
    corner ≤ q ∧ q - corner = (q - o) % w ∧ q - corner < w := by
  have parts := Nat.div_add_mod (q - o) w
  rw [Nat.mul_comm] at parts
  have small := Nat.mod_lt (q - o) pos
  omega

theorem cellBlit?_eq_some {r : Rect} {corner : Vec2} :
    m.cellBlit? t size origin x y = some (r, corner) ↔
      ∃ gid, m.tile? (Vec2.ofNats x y) = some gid ∧ ∃ tile, t.tileForGid gid = some tile ∧
        cellPosition? t origin x y = some corner ∧ t.rectangle? tile size.x = some r := by
  simp only [cellBlit?, Option.bind_eq_bind, Option.bind_eq_some_iff, Option.pure_def,
    Option.some.injEq, Prod.mk.injEq]
  refine exists_congr fun gid => and_congr_right fun _ => exists_congr fun tile =>
    and_congr_right fun _ => ?_
  constructor
  · rintro ⟨p, starts, s, found, rfl, rfl⟩
    exact ⟨starts, found⟩
  · rintro ⟨starts, found⟩
    exact ⟨corner, starts, r, found, rfl, rfl⟩

/-- Steps of up to 65536 leave no cell that is a fault. -/
theorem clear_of_steps (across : t.columnStep ≤ 65536) (down : t.rowStep ≤ 65536)
    (m : TileMap) (image origin : Vec2) (cells : List (Nat × Nat)) :
    m.Clear t image origin cells := by
  intro cell _
  simp only [cellFault?, Option.bind_eq_bind, Option.bind_eq_none_iff]
  intro gid _ tile _ corner _
  split
  · rfl
  · rename_i stops
    have great := (Tileset.tileRect?_eq_error_iff.mp stops).2.2.1
    exact absurd (Tileset.placeFits_of_steps across down tile _) great

theorem cellPixel_eq_some :
    m.cellPixel t size origin x y q = some s ↔
      ∃ r corner, m.cellBlit? t size origin x y = some (r, corner) ∧
        r.sourceOf size corner q = some s := by
  simp only [cellPixel, Option.bind_eq_some_iff, Prod.exists]

/-- No other cell than the one that `q` falls into shows anything there. -/
theorem cell_of_cellPixel (shows : m.cellPixel t size origin x y q = some s) :
    (origin.x.toNat ≤ q.x.toNat ∧ origin.y.toNat ≤ q.y.toNat) ∧ (x, y) = t.cellAt origin q := by
  obtain ⟨r, corner, blit, taken⟩ := cellPixel_eq_some.mp shows
  obtain ⟨gid, -, tile, -, starts, found⟩ := cellBlit?_eq_some.mp blit
  obtain ⟨start_x, start_y⟩ := cellPosition?_eq_some.mp starts
  obtain ⟨⟨left, top⟩, right, bottom⟩ := Rect.within_of_sourceOf taken
  rw [Tileset.tileRect?_size (Tileset.rectangle?_eq_some.mp found)] at right bottom
  obtain ⟨past_x, column⟩ := cell_axis start_x left right
  obtain ⟨past_y, row⟩ := cell_axis start_y top bottom
  exact ⟨⟨past_x, past_y⟩, Prod.ext column row⟩

/-- What the map shows is what the cell shows that `q` falls into. -/
theorem pixelFor_eq (wide : 0 < t.tileSize.x.toNat) (high : 0 < t.tileSize.y.toNat) :
    m.pixelFor t size origin q =
      if origin.x.toNat ≤ q.x.toNat ∧ origin.y.toNat ≤ q.y.toNat then
        m.cellPixel t size origin (t.cellAt origin q).1 (t.cellAt origin q).2 q
      else none := by
  unfold pixelFor
  dsimp only
  split
  · rename_i past
    apply Option.ext
    intro s
    simp only [cellPixel, cellBlit?, Option.bind_eq_bind, Option.bind_assoc, Option.pure_def,
      Option.bind_some, Option.bind_eq_some_iff]
    refine exists_congr fun gid => and_congr_right fun _ => exists_congr fun tile =>
      and_congr_right fun _ => exists_congr fun corner => and_congr_right fun starts =>
      exists_congr fun r => and_congr_right fun found => ?_
    obtain ⟨start_x, start_y⟩ := cellPosition?_eq_some.mp starts
    obtain ⟨left, offset_x, inner_x⟩ := axis_cell wide past.1 start_x
    obtain ⟨top, offset_y, inner_y⟩ := axis_cell high past.2 start_y
    rw [← Tileset.tileRect?_size (Tileset.rectangle?_eq_some.mp found)] at inner_x inner_y
    rw [Rect.sourceOf_of_within ⟨left, top⟩ inner_x inner_y, offset_x, offset_y]
  · rfl

/-- A cell that shows something at a position shows what the map shows there. -/
theorem pixelFor_of_cellPixel (wide : 0 < t.tileSize.x.toNat) (high : 0 < t.tileSize.y.toNat)
    (shows : m.cellPixel t size origin x y q = some s) :
    m.pixelFor t size origin q = some s := by
  obtain ⟨past, cell⟩ := cell_of_cellPixel shows
  rw [pixelFor_eq wide high, if_pos past, ← cell, shows]

/-- What the map shows is shown by the cell that the position falls into. -/
theorem cellPixel_of_pixelFor (wide : 0 < t.tileSize.x.toNat) (high : 0 < t.tileSize.y.toNat)
    (shown : m.pixelFor t size origin q = some s) :
    m.cellPixel t size origin (t.cellAt origin q).1 (t.cellAt origin q).2 q = some s := by
  rw [pixelFor_eq wide high] at shown
  split at shown
  · exact shown
  · contradiction

/-- The pixel that the map shows is one of the image. -/
theorem inside_of_pixelFor (shown : m.pixelFor t size origin q = some s) :
    s.inside size = true := by
  unfold pixelFor at shown
  dsimp only at shown
  split at shown
  · simp only [Option.bind_eq_bind, Option.bind_eq_some_iff] at shown
    obtain ⟨gid, -, tile, -, corner, -, r, -, taken⟩ := shown
    split at taken
    · rename_i inner
      rw [← Option.some.inj taken]
      exact Vec2.inside_ofNats inner.1 inner.2
    · contradiction
  · contradiction

end TileMap

end TileEngine
