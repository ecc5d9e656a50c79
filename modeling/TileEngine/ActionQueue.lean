import TileEngine.Duration

/-!
Timed actions. The queue holds a bounded number of actions and gives them out by
time; actions of one time come out in the order they were accepted.
-/

namespace TileEngine

/-- Something the engine does at a point of its clock. -/
inductive Action where
  | quit
  | pause
  | resume
  | pauseToggle
  | custom (id : UInt32)
  deriving DecidableEq, Repr, Inhabited

/-- The queue already holds as many actions as it may. -/
structure QueueFull where
  capacity : Nat
  deriving DecidableEq, Repr

/-- The wording of a refused action. -/
def QueueFull.message (e : QueueFull) : String :=
  s!"Action queue is full ({e.capacity} pending actions)"

/-- An accepted action: when it is due, its number among all accepted ones, and
what it is. -/
structure Scheduled where
  due : Duration
  serial : Nat
  action : Action
  deriving DecidableEq, Repr

/-- Whether one action comes out before another: an earlier time, or the same
time and an earlier acceptance. -/
def Scheduled.precedes (a b : Scheduled) : Bool :=
  a.due.nanos < b.due.nanos || (a.due.nanos == b.due.nanos && a.serial < b.serial)

/-- A bounded queue of actions; `pending` is kept in the order they come out. -/
structure ActionQueue where
  pending : List Scheduled
  capacity : Nat
  nextSerial : Nat
  deriving DecidableEq, Repr

namespace ActionQueue

/-- An empty queue for a number of actions. -/
def ofCapacity (capacity : Nat) : ActionQueue := ⟨[], capacity, 0⟩

/-- The number of pending actions. -/
def len (q : ActionQueue) : Nat := q.pending.length

/-- Nothing is pending. -/
def isEmpty (q : ActionQueue) : Bool := q.pending.isEmpty

/-- Puts an action in front of the first one that it precedes. -/
def place (entry : Scheduled) : List Scheduled → List Scheduled
  | [] => [entry]
  | next :: rest =>
    if entry.precedes next then entry :: next :: rest else next :: place entry rest

/-- Accepts an action unless the queue is full. -/
def push (q : ActionQueue) (action : Action) (due : Duration) : Except QueueFull ActionQueue :=
  if q.len ≥ q.capacity then .error ⟨q.capacity⟩
  else
    .ok { q with
      pending := place ⟨due, q.nextSerial, action⟩ q.pending
      nextSerial := q.nextSerial + 1 }

/-- Takes the first entry out if it is due. -/
def takeDue (q : ActionQueue) (now : Duration) : Option (Scheduled × ActionQueue) :=
  match q.pending with
  | [] => none
  | first :: rest =>
    if first.due.nanos > now.nanos then none
    else some (first, { q with pending := rest })

/-- Takes the first action out if it is due. -/
def popDue (q : ActionQueue) (now : Duration) : Option (Action × ActionQueue) :=
  (q.takeDue now).map fun (entry, q) => (entry.action, q)

/-- Takes due actions out until none is left, at most a number of times. -/
def drainSteps : Nat → ActionQueue → Duration → List Action × ActionQueue
  | 0, q, _ => ([], q)
  | steps + 1, q, now =>
    match q.popDue now with
    | none => ([], q)
    | some (action, q) =>
      let (rest, q) := drainSteps steps q now
      (action :: rest, q)

/-- Takes all due actions out. -/
def drain (q : ActionQueue) (now : Duration) : List Action × ActionQueue :=
  drainSteps q.len q now

end ActionQueue

end TileEngine
