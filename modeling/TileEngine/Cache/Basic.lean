import TileEngine.Cache.Slot
import TileEngine.Loader.Script
import TileEngine.Source.Basic

/-!
The cache: entries found by name and kind, the payloads they hold, and who still
refers to them. An entry is made by the first request for its key and leaves the
cache when its last handle is given back; a payload is destroyed when neither an
entry nor a caller holds it any more.
-/

namespace TileEngine

/-- An entry: its key, the number of handles to it, and its payload's life. -/
structure Block where
  key : Key
  refs : Nat
  slot : Slot
  deriving DecidableEq, Repr, Inhabited

/-- A payload and the number of its holders: the entry that has it, and callers
that keep it apart from any handle. -/
structure Cell where
  payload : Payload
  holders : Nat
  deriving DecidableEq, Repr, Inhabited

/-- The state of a cache. All entries and payloads that were ever made keep their
numbers; `order` lists the entries that are cached now. -/
structure Cache where
  blocks : Array Block
  order : List BlockId
  cells : Array Cell
  source : Source
  loaders : List Loader
  waitLimit : Option Duration
  open_ : Bool
  log : Array Event

namespace Cache

/-- An empty cache over a source. -/
def new (source : Source) (waitLimit : Option Duration) : Cache :=
  ⟨#[], [], #[], source, [], waitLimit, true, #[]⟩

/-- Records an event. -/
def record (c : Cache) (e : Event) : Cache := { c with log := c.log.push e }

/-- Records events in their order. -/
def recordAll (c : Cache) (events : List Event) : Cache := events.foldl record c

/-- Forgets what was recorded. -/
def clearLog (c : Cache) : Cache := { c with log := #[] }

/-- Registers a loader behind the others. -/
def addLoader (c : Cache) (loader : Loader) : Cache :=
  let c := { c with loaders := c.loaders ++ [loader] }
  c.record (.loaderAdded c.loaders.length)

/-- The number of cached entries. -/
def len (c : Cache) : Nat := c.order.length

/-- An entry that was made. -/
def block? (c : Cache) (id : BlockId) : Option Block := c.blocks[id]?

/-- A payload that was made. -/
def payload? (c : Cache) (id : PayloadId) : Option Payload := (c.cells[id]?).map Cell.payload

/-- Changes an entry. -/
def modifyBlock (c : Cache) (id : BlockId) (f : Block → Block) : Cache :=
  { c with blocks := c.blocks.modify id f }

/-- Changes the slot of an entry. -/
def modifySlot (c : Cache) (id : BlockId) (f : Slot → Slot) : Cache :=
  c.modifyBlock id fun b => { b with slot := f b.slot }

/-- Whether an entry has a key. -/
def hasKey (c : Cache) (key : Key) (id : BlockId) : Bool :=
  match c.block? id with
  | some b => b.key == key
  | none => false

/-- The cached entry of a key. -/
def find? (c : Cache) (key : Key) : Option BlockId := c.order.find? (c.hasKey key)

/-- Whether a key is cached. -/
def contains (c : Cache) (key : Key) : Bool := (c.find? key).isSome

/-- The number of handles to the cached entry of a key. -/
def countOf (c : Cache) (key : Key) : Option Nat := do
  let b ← c.block? (← c.find? key)
  return b.refs

/-! ## What a handle tells -/

/-- The entry of a handle. -/
def entry? (c : Cache) (h : Handle) : Option Block := h.block.bind c.block?

/-- The name that a handle was asked for by. -/
def name? (c : Cache) (h : Handle) : Option String := (c.entry? h).map (·.key.name)

/-- The number of handles to the same entry. -/
def refs (c : Cache) (h : Handle) : Nat := ((c.entry? h).map Block.refs).getD 0

/-- Whether the resource is there without loading. -/
def isLoaded (c : Cache) (h : Handle) : Bool :=
  ((c.entry? h).bind (·.slot.payload?)).isSome

/-! ## Taking references -/

/-- Keeps a new payload with one holder. -/
def store (c : Cache) (payload : Payload) : Cache × PayloadId :=
  ({ c with cells := c.cells.push ⟨payload, 1⟩ }, c.cells.size)

/-- One more holder of a payload. -/
def hold (c : Cache) (id : PayloadId) : Cache :=
  { c with cells := c.cells.modify id fun cell => { cell with holders := cell.holders + 1 } }

/-- One more handle to an entry. -/
def retainBlock (c : Cache) (id : BlockId) : Cache :=
  c.modifyBlock id fun b => { b with refs := b.refs + 1 }

/-- A second handle to what a handle refers to. -/
def retain (c : Cache) (h : Handle) : Cache :=
  match h.block with
  | some id => c.retainBlock id
  | none => c

/-- Makes an entry with one reference. -/
def insert (c : Cache) (key : Key) (slot : Slot) : Cache × BlockId :=
  let id := c.blocks.size
  let c := { c with blocks := c.blocks.push ⟨key, 1, slot⟩, order := c.order ++ [id] }
  (c.record (.created key), id)

/-- A reference to the entry of a key, which is made if there is none. -/
def acquire (c : Cache) (key : Key) : Cache × BlockId :=
  match c.find? key with
  | some id => ((c.retainBlock id).record (.known key), id)
  | none => c.insert key Slot.fresh

/-- A handle to a key; nothing is loaded. -/
def lazy (c : Cache) (key : Key) : Cache × Handle :=
  let (c, id) := c.acquire key
  (c, ⟨key.kind, some id⟩)

end Cache

end TileEngine
