import TileEngine.Tile.Map

/-!
Payloads: what an entry of the cache holds once it is loaded.
-/

namespace TileEngine

/-- The content of a loaded entry. -/
inductive Payload where
  | bitmap (b : Bitmap)
  | tileMap (m : TileMap)
  | note (text : String) (links : List Handle)
  | sprite
  deriving DecidableEq, Repr, Inhabited

/-- The number of a payload; every payload that is ever made has its own. -/
abbrev PayloadId := Nat

namespace Payload

/-- What kind of resource a payload is. -/
def kind : Payload → Kind
  | .bitmap _ => .bitmap
  | .tileMap _ => .tileMap
  | .note .. => .note
  | .sprite => .sprite

/-- The handles that a payload holds, in the order in which it gives them back. -/
def handles : Payload → List Handle
  | .bitmap _ => []
  | .tileMap m =>
    match m.tileset with
    | some t => [t.image]
    | none => []
  | .note _ links => links
  | .sprite => []

/-- The text by which a note makes itself heard. -/
def voice : Payload → Option String
  | .note text _ => some text
  | _ => none

end Payload

end TileEngine
