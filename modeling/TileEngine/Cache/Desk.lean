import TileEngine.Cache.Draw
import TileEngine.Cache.Shared

/-!
A desk: a cache with handles that lie under names, and payloads that are kept
apart from any handle. Where a name gets a new handle, the new one is made before
the old one is given back.
-/

namespace TileEngine

/-- A cache, named handles to its entries, and named payloads. -/
structure Desk where
  cache : Cache
  handles : List (String × Handle)
  kept : List (String × PayloadId)

namespace Desk

/-- A desk without handles. -/
def ofCache (c : Cache) : Desk := ⟨c, [], []⟩

/-- The handle under a name. -/
def handle? (d : Desk) (name : String) : Option Handle := d.handles.lookup name

/-- Puts a handle under a name and gives the one that was there back. -/
def put (d : Desk) (name : String) (h : Handle) : Desk :=
  let old := d.handle? name
  let d := { d with handles := (name, h) :: d.handles.filter (·.1 != name) }
  match old with
  | some old => { d with cache := d.cache.release old }
  | none => d

/-- Gives the handle under a name back; the flag says whether there was one. -/
def drop (d : Desk) (name : String) : Desk × Bool :=
  match d.handle? name with
  | some h =>
    ({ d with
      cache := d.cache.release h
      handles := d.handles.filter (·.1 != name) }, true)
  | none => (d, false)

/-- A handle to a key under a name; nothing is loaded. -/
def lazy (d : Desk) (name : String) (key : Key) : Desk :=
  let (c, h) := d.cache.lazy key
  { d with cache := c }.put name h

/-- A handle to a key whose resource is there. An error leaves the names alone. -/
def load (d : Desk) (name : String) (key : Key) : Desk × Except Failure Unit :=
  match d.cache.load key with
  | (c, .ok h) => ({ d with cache := c }.put name h, .ok ())
  | (c, .error failure) => ({ d with cache := c }, .error failure)

/-- A handle to a value that bypasses the loaders. -/
def make (d : Desk) (name resource : String) (payload : Payload) : Desk :=
  let (c, h) := d.cache.make resource payload
  { d with cache := c }.put name h

/-- A handle to a map that is drawn with a tile set, whose image is another
handle to what `image` refers to. -/
def makeMap (d : Desk) (name resource : String) (map : TileMap) (tileset : Tileset)
    (image : Handle) : Desk :=
  let c := d.cache.retain image
  let map := { map with tileset := some { tileset with image := image } }
  { d with cache := c }.make name resource (.tileMap map)

/-- A second handle to what another one refers to. -/
def clone (d : Desk) (name : String) (h : Handle) : Desk :=
  { d with cache := d.cache.retain h }.put name h

/-- Moves a handle to another name; null stays behind. -/
def take (d : Desk) (name source : String) (h : Handle) : Desk :=
  let null := Handle.null h.kind
  { d with handles := (source, null) :: d.handles.filter (·.1 != source) }.put name h

/-- Makes the handle under a name refer to what another one refers to, unless it
does already. -/
def cloneFrom (d : Desk) (name : String) (h source : Handle) : Desk :=
  if h.block = source.block then d else d.clone name source

/-- Keeps the resource of a handle under a name; one that was there is given up. -/
def hold (d : Desk) (name : String) (h : Handle) : Desk × Except Failure Unit :=
  match d.cache.get h with
  | (c, .error failure) => ({ d with cache := c }, .error failure)
  | (c, .ok (id, _)) =>
    let c := c.hold id
    let c := match d.kept.lookup name with
      | some old => c.unhold old
      | none => c
    ({ d with cache := c, kept := (name, id) :: d.kept.filter (·.1 != name) }, .ok ())

/-- The payload kept under a name. -/
def held? (d : Desk) (name : String) : Option Payload :=
  (d.kept.lookup name).bind d.cache.payload?

/-- Gives up the payload kept under a name; the flag says whether there was one. -/
def unhold (d : Desk) (name : String) : Desk × Bool :=
  match d.kept.lookup name with
  | some id =>
    ({ d with
      cache := d.cache.unhold id
      kept := d.kept.filter (·.1 != name) }, true)
  | none => (d, false)

/-- The number of a resource's payload; none when it cannot be had. A panic
passes. -/
def payloadOf (c : Cache) (h : Handle) : Cache × Except Failure (Option PayloadId) :=
  match c.get h with
  | (c, .ok (id, _)) => (c, .ok (some id))
  | (c, .error (.error _)) => (c, .ok none)
  | (c, .error failure) => (c, .error failure)

/-- Whether two handles have one and the same payload; none when either resource
cannot be had. -/
def samePayload (d : Desk) (h other : Handle) : Desk × Except Failure (Option Bool) :=
  match payloadOf d.cache h with
  | (c, .error failure) => ({ d with cache := c }, .error failure)
  | (c, .ok first) =>
    match payloadOf c other with
    | (c, .error failure) => ({ d with cache := c }, .error failure)
    | (c, .ok second) =>
      let same := match first, second with
        | some a, some b => some (a == b)
        | _, _ => none
      ({ d with cache := c }, .ok same)

end Desk

end TileEngine
