import TileEngine.Json.Reader

/-!
Map documents: the part of a map editor's JSON format that describes a grid of
tile numbers and the tile set it draws from.
-/

namespace TileEngine

/-- One layer of a map document. -/
structure LayerDocument where
  width : UInt16
  height : UInt16
  data : List UInt16
  deriving DecidableEq, Repr

/-- One tile set of a map document. -/
structure TilesetDocument where
  firstGid : UInt16
  image : String
  tileCount : UInt16
  tileWidth : UInt16
  tileHeight : UInt16
  spacing : UInt16
  margin : UInt16
  columns : Option UInt16
  deriving DecidableEq, Repr

/-- A map document. -/
structure MapDocument where
  width : UInt16
  height : UInt16
  layers : List LayerDocument
  tilesets : List TilesetDocument
  deriving DecidableEq, Repr

open Json (Value)

namespace LayerDocument

/-- Reads a layer; all its members are required. -/
def ofValue? (v : Value) : Option LayerDocument := do
  match ← v.record? ["width", "height", "data"] with
  | [some width, some height, some data] =>
    return ⟨← width.word?, ← height.word?, ← data.words?⟩
  | _ => none

end LayerDocument

namespace TilesetDocument

/-- A word that may be left out. -/
def wordOr (absent : UInt16) : Option Value → Option UInt16
  | none => some absent
  | some v => v.word?

/-- Reads a tile set. The first tile number is 1, and the gaps are 0, where they
are left out; the number of columns may also be null. -/
def ofValue? (v : Value) : Option TilesetDocument := do
  match ← v.record? ["firstgid", "image", "tilecount", "tilewidth", "tileheight", "spacing",
      "margin", "columns"] with
  | [firstGid, some image, some count, some width, some height, spacing, margin, columns] =>
    return {
      firstGid := ← wordOr 1 firstGid
      image := ← image.text?
      tileCount := ← count.word?
      tileWidth := ← width.word?
      tileHeight := ← height.word?
      spacing := ← wordOr 0 spacing
      margin := ← wordOr 0 margin
      columns := ← (columns.getD .null).optionalWord? }
  | _ => none

end TilesetDocument

namespace MapDocument

/-- Reads a map document; all its members are required. -/
def ofValue? (v : Value) : Option MapDocument := do
  match ← v.record? ["width", "height", "layers", "tilesets"] with
  | [some width, some height, some layers, some tilesets] =>
    return {
      width := ← width.word?
      height := ← height.word?
      layers := ← (← layers.items?).mapM LayerDocument.ofValue?
      tilesets := ← (← tilesets.items?).mapM TilesetDocument.ofValue? }
  | _ => none

/-- Reads a map document from bytes. -/
def ofBytes? (bytes : List UInt8) : Option MapDocument := do
  ofValue? (← Json.readDocument bytes)

end MapDocument

end TileEngine
