import TileEngine.Cache.Load

/-!
Several callers at once. While the first one decodes, the others find the entry
being loaded and wait; in the end all of them have the outcome of one load, or
those that wait give up first. When the first caller does not come to decode
anything, the others come after it one by one.
-/

namespace TileEngine

namespace Cache

/-- What callers of one resource got, the first one first, and whether they
shared one load. -/
structure SharedResult where
  shared : Bool
  results : List (Except Failure (PayloadId × Payload))

/-- The result of a caller that waited since some number of failures, once the
load has ended. -/
def afterWait (c : Cache) (h : Handle) (id : BlockId) (since : Nat) :
    Except Failure (PayloadId × Payload) :=
  match c.block? id with
  | none => .error (.error .nullHandle)
  | some b =>
    match b.slot.look (some since) with
    | .take payload => c.typed h payload
    | .giveUp => .error (.error (.loadFailed b.key))
    | .claim | .wait _ => .error .stuck

/-- Gets a resource a number of times, one after the other. -/
def getRepeatedly : Nat → Cache → Handle → Cache × List (Except Failure (PayloadId × Payload))
  | 0, c, _ => (c, [])
  | count + 1, c, h =>
    let (c, r) := c.get h
    let (c, rest) := getRepeatedly count c h
    (c, r :: rest)

/-- The outcome of a load that was claimed, as a caller's result. -/
def typedResult (c : Cache) (h : Handle) :
    Except Failure PayloadId → Except Failure (PayloadId × Payload)
  | .ok payload => c.typed h payload
  | .error failure => .error failure

/-- Callers of an empty entry: the first one claims it, and `others` more find
it being loaded. With `expired` they give up before the load goes on. -/
def getClaimed (c : Cache) (h : Handle) (id : BlockId) (b : Block) (others : Nat)
    (expired : Bool) : Cache × SharedResult :=
  match (c.modifySlot id Slot.claimed).prepare b.key with
  | (c, none) =>
    let (c, rest) := getRepeatedly others (c.abandon id) h
    (c, ⟨false, .error (.error (.loadFailed b.key)) :: rest⟩)
  | (c, some script) =>
    let since := ((c.block? id).map (·.slot.failures)).getD 0
    let given := List.replicate others (Event.timedOut b.key.name)
    let c := if expired then c.recordAll given else c
    let (c, outcome) := runScript fetch script [] c
    let (c, r) := c.settle id b.key outcome
    let waited : Except Failure (PayloadId × Payload) :=
      if expired then .error (.error (.timedOut b.key.name)) else c.afterWait h id since
    (c, ⟨true, c.typedResult h r :: List.replicate others waited⟩)

/-- The entry of a handle if the next caller would be the one to load it. -/
def claimable? (c : Cache) (h : Handle) : Option (BlockId × Block) :=
  match h.block, c.entry? h with
  | some id, some b => if b.slot.look none = .claim then some (id, b) else none
  | _, _ => none

/-- Callers with a handle each, counted as further handles while they run. -/
def getShared (c : Cache) (h : Handle) (callers : Nat) (expired : Bool) : Cache × SharedResult :=
  let clones := List.replicate callers h
  let c := clones.foldl retain c
  let (c, result) :=
    match c.claimable? h, callers with
    | some (id, b), others + 1 => c.getClaimed h id b others expired
    | _, _ =>
      let (c, results) := getRepeatedly callers c h
      (c, ⟨false, results⟩)
  (c.releaseAll clones, result)

end Cache

end TileEngine
