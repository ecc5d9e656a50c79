import TileEngine.Cache.Draw

/-!
A scene: one image, a tile set over it, a map that is drawn with the tile set,
and a bitmap to draw into. The image handle is held by the scene, by the tile
set, and by the map's own tile set.
-/

namespace TileEngine

/-- What a scene holds. -/
structure Scene where
  cache : Cache
  image : Handle
  tileset : Option Tileset
  map : TileMap
  canvas : Bitmap

namespace Scene

/-- The map with a tile set of its own; the one it had is given back. -/
def attach (s : Scene) (t : Tileset) : Scene :=
  let c := s.cache.retain t.image
  let c := match s.map.tileset with
    | some old => c.release old.image
    | none => c
  { s with cache := c, map := { s.map with tileset := some t } }

/-- A scene over an image. -/
def new (c : Cache) (image : Handle) (tileset : Option Tileset) (size : Vec2)
    (canvas : Bitmap) : Scene :=
  let s : Scene := ⟨c, image, none, TileMap.new size, canvas⟩
  match tileset with
  | none => s
  | some t =>
    let t := { t with image := image }
    { s with cache := c.retain image, tileset := some t }.attach t

/-- The map without a tile set; the one it had is given back. -/
def detach (s : Scene) : Scene :=
  let c := match s.map.tileset with
    | some old => s.cache.release old.image
    | none => s.cache
  { s with cache := c, map := { s.map with tileset := none } }

/-- Whether the map is what a new map of its size would be. -/
def isPristine (s : Scene) : Bool := TileMap.new s.map.size == s.map

end Scene

end TileEngine
