/-!
Names of things in the cache: the kinds of resources, the keys that entries are
found by, and handles.
-/

namespace TileEngine

/-- The kinds of resources. -/
inductive Kind where
  /-- A picture. -/
  | bitmap
  /-- A grid of tiles. -/
  | tileMap
  /-- A text that may hold handles to other notes. -/
  | note
  /-- A resource without content. -/
  | sprite
  deriving DecidableEq, Repr, Inhabited

/-- The name of a kind in messages. -/
def Kind.label : Kind → String
  | .bitmap => "Bitmap"
  | .tileMap => "TileMap"
  | .note => "Note"
  | .sprite => "Sprite"

/-- What an entry is found by: a name, and the kind that is asked for. -/
structure Key where
  name : String
  kind : Kind
  deriving DecidableEq, Repr, Inhabited

/-- The number of an entry; every entry that is ever made has its own. -/
abbrev BlockId := Nat

/-- A counted reference to an entry, asked for as a resource of some kind; a
handle without an entry is null. -/
structure Handle where
  kind : Kind
  block : Option BlockId
  deriving DecidableEq, Repr, Inhabited

namespace Handle

/-- A handle to nothing. -/
def null (kind : Kind) : Handle := ⟨kind, none⟩

/-- Whether a handle refers to no entry. -/
def isNull (h : Handle) : Bool := h.block.isNone

end Handle

end TileEngine
