import TileEngine.Loader.Script
import TileEngine.Tile.Document

/-!
The loader of tile maps. The first layer gives the cells and the first tile set
is the one that is drawn with; its image is taken from the cache by name, without
loading it.
-/

namespace TileEngine

namespace Loader

/-- White space at the start of a document: blank, tab, line feed, form feed or
carriage return. -/
def isProbeBlank (b : UInt8) : Bool :=
  b == 0x20 || b == 0x09 || b == 0x0A || b == 0x0C || b == 0x0D

/-- Drops a byte order mark. -/
def dropMark : List UInt8 → List UInt8
  | 0xEF :: 0xBB :: 0xBF :: rest => rest
  | bytes => bytes

/-- Whether the first byte behind a mark and white space opens an object. -/
def opensObject (head : List UInt8) : Bool :=
  ((dropMark head).find? (!isProbeBlank ·)) == some 0x7B

/-- How far a probe looks ahead, in bytes. -/
def probeWindow : Nat := 64

/-- A document is accepted by the look of its first bytes. -/
def probeMap (s : ByteStream) : Probe :=
  match s.peek probeWindow with
  | (.ok bytes, s) => ⟨opensObject bytes.toList, s, []⟩
  | (.error _, s) => ⟨false, s, []⟩

/-- The layer and the tile set that a document is drawn from, if they fit it. -/
def checkDocument (name : String) (d : MapDocument) :
    Except DecodeFailure (LayerDocument × TilesetDocument) := do
  let some layer := d.layers.head? | throw (.noLayers name)
  if layer.width != d.width || layer.height != d.height then
    throw (.layerSize layer.width layer.height d.width d.height)
  let area := (Vec2.mk d.width d.height).area
  if layer.data.length != area then throw (.layerCells layer.data.length area)
  let some tileset := d.tilesets.head? | throw (.noTileset name)
  return (layer, tileset)

/-- The tile set of a document over an image. -/
def tilesetOf (t : TilesetDocument) (image : Handle) : Tileset where
  image := image
  tileSize := ⟨t.tileWidth, t.tileHeight⟩
  tileCount := t.tileCount
  firstGid := t.firstGid
  margin := t.margin
  spacing := t.spacing
  columns := t.columns

/-- The map of a layer, unless it uses a number that its tile set does not know. -/
def mapOf (d : MapDocument) (layer : LayerDocument) (t : TilesetDocument) (image : Handle) :
    Except DecodeFailure TileMap :=
  let map := ((TileMap.new ⟨d.width, d.height⟩).setTiles 0 layer.data).1
  if map.highest != 0 && map.highest.toNat ≥ t.firstGid.toNat + t.tileCount.toNat then
    .error (.unknownTiles map.highest t.tileCount)
  else .ok { map with tileset := some (tilesetOf t image) }

/-- Turns a document into a map. The image is asked for before the numbers of
the cells are checked. -/
def mapScript (name : String) (d : MapDocument) : LoadScript :=
  match checkDocument name d with
  | .error cause => .fail cause
  | .ok (layer, tileset) =>
    .request ⟨tileset.image, .bitmap⟩ fun image =>
      match mapOf d layer tileset image with
      | .error cause => .fail cause
      | .ok map => .record (.mapDecoded name) (.finish (.tileMap map))

/-- Decodes the whole stream into a map. -/
def decodeMap (s : ByteStream) (context : LoadContext) : LoadScript :=
  match s.readToEnd.1 with
  | .error cause => .fail (.stream cause)
  | .ok bytes =>
    match MapDocument.ofBytes? bytes.toList with
    | none => .fail (.invalidMap context.key.name)
    | some d => mapScript context.key.name d

/-- The loader of tile maps. -/
def tileMap : Loader where
  supports kind := kind == .tileMap
  probe := probeMap
  opening _ _ := []
  decode := decodeMap

end Loader

end TileEngine
