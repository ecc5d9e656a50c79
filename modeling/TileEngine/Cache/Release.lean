import TileEngine.Cache.Basic

/-!
Giving references back. When the last handle of an entry is gone the entry leaves
the cache, its payload loses a holder, and a payload without holders is destroyed
and gives back its own handles, one after the other.
-/

namespace TileEngine

namespace Cache

/-- A list without its `i`-th item, whose place the last item takes. -/
def swapRemove (ids : List BlockId) (i : Nat) : List BlockId :=
  match ids.getLast? with
  | none => []
  | some last => (ids.set i last).dropLast

/-- Takes an entry out of the cache. -/
def evict (c : Cache) (id : BlockId) (key : Key) : Cache :=
  match c.order.findIdx? (· == id) with
  | some i => { c.record (.unloading key) with order := swapRemove c.order i }
  | none => c.record (.lost key)

/-- One handle less to an entry. -/
def lower (c : Cache) (id : BlockId) : Cache :=
  c.modifyBlock id fun b => { b with refs := b.refs - 1 }

/-- Takes an entry without handles out of an open cache; its payload is what comes
back. -/
def dismiss (c : Cache) (id : BlockId) : Cache × Option PayloadId :=
  match c.block? id with
  | none => (c, none)
  | some b => (if c.open_ then c.evict id b.key else c, b.slot.payload?)

/-- Takes one reference from an entry. When it was the last one, the entry leaves
an open cache, and its payload is what comes back. -/
def dropRef (c : Cache) (id : BlockId) : Cache × Option PayloadId :=
  match c.block? id with
  | none => (c, none)
  | some b => if b.refs > 1 then (c.lower id, none) else (c.lower id).dismiss id

/-- Takes one holder from a payload. When it was the last one, the payload is
destroyed, and its handles are what comes back. -/
def dropHolder (c : Cache) (id : PayloadId) : Cache × List Handle :=
  match c.cells[id]? with
  | none => (c, [])
  | some cell =>
    let c :=
      { c with cells := c.cells.modify id fun cell => { cell with holders := cell.holders - 1 } }
    if cell.holders = 1 then (c.record (.destroyed id cell.payload.voice), cell.payload.handles)
    else (c, [])

/-- Takes one reference from the entry of a handle; the handles of a payload that
was destroyed come back. -/
def releaseOne (c : Cache) (h : Handle) : Cache × List Handle :=
  match h.block with
  | none => (c, [])
  | some id =>
    match c.dropRef id with
    | (c, none) => (c, [])
    | (c, some payload) => c.dropHolder payload

/-- Gives back handles, those of destroyed payloads before the ones that were
waiting; the first argument bounds their number. -/
def releaseSteps : Nat → Cache → List Handle → Cache
  | 0, c, _ => c
  | _, c, [] => c
  | steps + 1, c, h :: rest =>
    let (c, more) := c.releaseOne h
    releaseSteps steps c (more ++ rest)

/-- The number of handles in all payloads. -/
def handleCount (c : Cache) : Nat := (c.cells.toList.flatMap (·.payload.handles)).length

/-- Gives back handles in their order. Every payload is destroyed at most once,
so no more handles can turn up than payloads hold. -/
def releaseAll (c : Cache) (handles : List Handle) : Cache :=
  releaseSteps (handles.length + c.handleCount) c handles

/-- Gives back one handle. -/
def release (c : Cache) (h : Handle) : Cache := c.releaseAll [h]

/-- Gives up a payload that was kept apart from its handles. -/
def unhold (c : Cache) (id : PayloadId) : Cache :=
  let (c, handles) := c.dropHolder id
  c.releaseAll handles

/-- Caches a value under a key unless there is an entry already, which wins. The
handle comes back, and the value if it found no place. -/
def place (c : Cache) (name : String) (payload : Payload) : Cache × Handle × Option PayloadId :=
  let key : Key := ⟨name, payload.kind⟩
  let (c, cell) := c.store payload
  match c.find? key with
  | some id =>
    ((c.retainBlock id).recordAll [.known key, .discarded name], ⟨key.kind, some id⟩, some cell)
  | none =>
    let (c, id) := c.insert key (Slot.preset cell)
    (c, ⟨key.kind, some id⟩, none)

/-- Caches a value under a key, past the loaders. A value that finds no place is
destroyed. -/
def make (c : Cache) (name : String) (payload : Payload) : Cache × Handle :=
  match c.place name payload with
  | (c, h, some cell) => (c.unhold cell, h)
  | (c, h, none) => (c, h)

/-- The cache itself goes away; its entries live on as long as handles to them. -/
def close (c : Cache) : Cache := { c with open_ := false, order := [] }

/-- Tells every loaded payload how much time has passed, in cache order. -/
def tick (c : Cache) (delta : Duration) : Cache :=
  let loaded := c.order.filterMap fun id => (c.block? id).bind (·.slot.payload?)
  c.recordAll (loaded.map fun id => .ticked id ((c.payload? id).bind Payload.voice) delta)

end Cache

end TileEngine
