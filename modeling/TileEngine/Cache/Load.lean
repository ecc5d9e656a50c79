import TileEngine.Cache.Release

/-!
Loading. The first caller that finds an entry empty runs the loaders for it; a
decoder may ask the cache for further resources meanwhile, and load them too. A
caller that finds an entry being loaded waits for it; inside one and the same
thread that wait can only end by its limit.
-/

namespace TileEngine

/-- How a decoder's script ends. -/
inductive Outcome where
  | produced (payload : Payload)
  | refused (cause : DecodeFailure)
  | halted (failure : Failure)
  deriving DecidableEq, Repr

namespace Cache

/-- What loaders see of the cache. -/
def context (c : Cache) (key : Key) : LoadContext := ⟨key, c.waitLimit.isSome⟩

/-- Finds the loader for a key: the script of the first supporting one that
accepts the stream. Without one, the reason is recorded. -/
def prepare (c : Cache) (key : Key) : Cache × Option LoadScript :=
  if !c.open_ then (c.record (.ownerGone key), none)
  else
    let candidates := c.loaders.filter (·.supports key.kind)
    if candidates.isEmpty then (c.record (.noLoader key), none)
    else match c.source.openStream key.name with
      | .error cause => (c.record (.notOpened key.name cause), none)
      | .ok stream =>
        let (events, choice) := Loader.choose candidates stream
        let c := c.recordAll events
        match choice with
        | .nobody => (c.record (.notAccepted key), none)
        | .notRewound cause => (c.record (.notRewound key.name cause), none)
        | .chosen loader stream =>
          (c.recordAll (loader.opening stream (c.context key)),
            some (loader.decode stream (c.context key)))

/-- A payload as the kind that a handle asks for. -/
def typed (c : Cache) (h : Handle) (id : PayloadId) : Except Failure (PayloadId × Payload) :=
  match c.payload? id with
  | some payload =>
    if payload.kind = h.kind then .ok (id, payload)
    else .error (.error (.typeMismatch ((c.name? h).getD "") h.kind))
  | none => .error (.error .nullHandle)

/-- How an entry's payload is got; loading it is the part that is left open. -/
abbrev Resolver := Cache → BlockId → Cache × Except Failure PayloadId

/-- Gets the resource of a handle. -/
def getWith (resolve : Resolver) (c : Cache) (h : Handle) :
    Cache × Except Failure (PayloadId × Payload) :=
  match h.block with
  | none => (c, .error (.error .nullHandle))
  | some id =>
    match resolve c id with
    | (c, .ok payload) => (c, c.typed h payload)
    | (c, .error failure) => (c, .error failure)

/-- Takes a handle to a key and gets its resource; without one the handle is
given back, except by a call that never returns. -/
def loadWith (resolve : Resolver) (c : Cache) (key : Key) : Cache × Except Failure Handle :=
  let (c, h) := c.lazy key
  match getWith resolve c h with
  | (c, .ok _) => (c, .ok h)
  | (c, .error .stuck) => (c, .error .stuck)
  | (c, .error failure) => (c.release h, .error failure)

/-- Runs a script. `taken` are the handles that it holds so far, in order. -/
def runScript (resolve : Resolver) : LoadScript → (taken : List Handle) → Cache →
    Cache × Outcome
  | .finish payload, taken, c =>
    (c.releaseAll (payload.handles.foldl List.erase taken), .produced payload)
  | .fail cause, taken, c => (c.releaseAll taken, .refused cause)
  | .panic message, taken, c => (c.releaseAll taken, .halted (.panic message))
  | .record event next, taken, c => runScript resolve next taken (c.record event)
  | .request key next, taken, c =>
    let (c, h) := c.lazy key
    runScript resolve (next h) (taken ++ [h]) c
  | .demand key next, taken, c =>
    match loadWith resolve c key with
    | (c, .ok h) => runScript resolve (next (.ok h)) (taken ++ [h]) c
    | (c, .error (.error cause)) => runScript resolve (next (.error cause)) taken c
    | (c, .error .stuck) => (c, .halted .stuck)
    | (c, .error failure) => (c.releaseAll taken, .halted failure)
  | .inspect h next, taken, c =>
    match getWith resolve c h with
    | (c, .ok (_, payload)) => runScript resolve (next (.ok payload)) taken c
    | (c, .error (.error cause)) => runScript resolve (next (.error cause)) taken c
    | (c, .error .stuck) => (c, .halted .stuck)
    | (c, .error failure) => (c.releaseAll taken, .halted failure)

/-- Ends the load of an entry without a payload. -/
def abandon (c : Cache) (id : BlockId) : Cache := c.modifySlot id Slot.failed

/-- Ends the load of an entry with a payload of its own. -/
def fill (c : Cache) (id : BlockId) (payload : Payload) : Cache × PayloadId :=
  let (c, cell) := c.store payload
  (c.modifySlot id (·.filled cell), cell)

/-- Ends the load of an entry with the outcome of its script. -/
def settle (c : Cache) (id : BlockId) (key : Key) : Outcome → Cache × Except Failure PayloadId
  | .produced payload =>
    let (c, cell) := (c.record (.loaded key)).fill id payload
    (c, .ok cell)
  | .refused cause =>
    ((c.record (.notLoaded key cause)).abandon id, .error (.error (.loadFailed key)))
  | .halted .stuck => (c, .error .stuck)
  | .halted failure => (c.abandon id, .error failure)

/-- Waits for the caller's own load: up to the limit, or for ever. -/
def waitInVain (c : Cache) (key : Key) : Cache × Except Failure PayloadId :=
  if c.open_ && c.waitLimit.isSome then
    (c.record (.timedOut key.name), .error (.error (.timedOut key.name)))
  else (c, .error .stuck)

/-- Gets the payload of an entry and loads it if nobody has. The first argument
bounds how deep loads may be nested. -/
def resolve : Nat → Resolver
  | 0, c, _ => (c, .error .stuck)
  | depth + 1, c, id =>
    match c.block? id with
    | none => (c, .error (.error .nullHandle))
    | some b =>
      match b.slot.look none with
      | .take payload => (c, .ok payload)
      | .giveUp => (c, .error (.error (.loadFailed b.key)))
      | .wait _ => c.waitInVain b.key
      | .claim =>
        match (c.modifySlot id Slot.claimed).prepare b.key with
        | (c, none) => (c.abandon id, .error (.error (.loadFailed b.key)))
        | (c, some script) =>
          let (c, outcome) := runScript (resolve depth) script [] c
          c.settle id b.key outcome

/-- How deep loads may be nested. Every nested load is for a key that is not
being loaded yet, and its name comes from a file, so that there are no more of
them than bytes in all files, for each of the four kinds. -/
def depthBound (c : Cache) : Nat := 4 * (c.source.byteCount + c.len + 2)

/-- Gets the payload of an entry. -/
def fetch (c : Cache) (id : BlockId) : Cache × Except Failure PayloadId :=
  resolve c.depthBound c id

/-- Gets the resource of a handle. -/
def get (c : Cache) (h : Handle) : Cache × Except Failure (PayloadId × Payload) :=
  getWith fetch c h

/-- Loads the resource of a handle, of whatever kind it turns out to be. -/
def ensure (c : Cache) (h : Handle) : Cache × Except Failure Unit :=
  match h.block with
  | none => (c, .error (.error .nullHandle))
  | some id =>
    let (c, r) := c.fetch id
    (c, r.map fun _ => ())

/-- Takes a handle to a key whose resource is there. -/
def load (c : Cache) (key : Key) : Cache × Except Failure Handle := loadWith fetch c key

end Cache

end TileEngine
