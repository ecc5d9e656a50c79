import TileEngine.ActionQueue
import TileEngine.Cache.Describe
import TileEngine.Cache.Draw
import TileEngine.Config.Basic
import TileEngine.Loader.Picture
import TileEngine.Loader.World

/-!
The engine. It is initialized, ticks until an action makes it quit, and may be
paused in between. A tick moves the clock, performs the actions that are due in
the order of the queue, and then, unless the engine is paused or has quit, tells
every loaded resource how much time has passed.
-/

namespace TileEngine

/-- The stage after a wish to pause or to go on, which only a running or a paused
engine follows. -/
def Stage.withPause (wish : Bool) : Stage → Stage
  | .running | .paused => if wish then .paused else .running
  | stage => stage

/-- Why a tick did not take place. -/
inductive TickError where
  | clockOverflow
  deriving DecidableEq, Repr

/-- The wording of a tick that did not take place. -/
def TickError.message : TickError → String
  | .clockOverflow => "overflow when adding durations"

/-- An engine. `handlesCustom` says whether somebody takes custom actions. -/
structure Engine where
  config : Config
  stage : Stage
  cache : Cache
  actions : ActionQueue
  clock : Duration
  frames : Nat
  handlesCustom : Bool

namespace Engine

/-- An engine over a source, with the loaders of pictures and of maps. -/
def new (config : Config) (source : Source) (handlesCustom : Bool) : Engine :=
  let cache := ((Cache.new source config.waitLimit).addLoader Loader.png).addLoader Loader.tileMap
  ⟨config, .init, cache, .ofCapacity config.queueCapacity.toNat, Duration.zero, 0, handlesCustom⟩

/-- Records an event. -/
def record (e : Engine) (event : Event) : Engine := { e with cache := e.cache.record event }

/-- Initialized, and not at its end. -/
def isRunning (e : Engine) : Bool := e.stage != .init && e.stage != .quit

/-- Takes the engine out of its first stage; a second time is reported and does
nothing. -/
def init (e : Engine) : Engine :=
  if e.stage = .init then
    { e.record (.initializing e.cache.loaders.length e.config.tickRate.toNat) with
      stage := .firstTick }
  else e.record (.reinitialized e.stage)

/-- Performs an action now. -/
def execute (e : Engine) : Action → Engine
  | .quit => { e.record (.quitting e.frames) with stage := .quit }
  | .pause => { e with stage := e.stage.withPause true }
  | .resume => { e with stage := e.stage.withPause false }
  | .pauseToggle => { e with stage := e.stage.withPause (e.stage != .paused) }
  | .custom id => e.record (if e.handlesCustom then .handled id else .unhandled id)

/-- Schedules an action for a time. -/
def queue (e : Engine) (action : Action) (due : Duration) : Except QueueFull Engine :=
  (e.actions.push action due).map fun actions => { e with actions := actions }

/-- Schedules an action for the next tick. -/
def queueNext (e : Engine) (action : Action) : Except QueueFull Engine :=
  e.queue action e.clock

/-- Performs the due actions in their order until the engine quits, at most a
number of them; the entries that were performed are given too. -/
def performSteps : Nat → Engine → Engine × List Scheduled
  | 0, e => (e, [])
  | steps + 1, e =>
    if e.stage = .quit then (e, [])
    else
      match e.actions.takeDue e.clock with
      | none => (e, [])
      | some (entry, actions) =>
        let (e, rest) := performSteps steps ({ e with actions := actions }.execute entry.action)
        (e, entry :: rest)

/-- Performs the due actions in their order until the engine quits. -/
def performDue (e : Engine) : Engine × List Scheduled := performSteps e.actions.len e

/-- Tells the resources how much time has passed, if the engine is running. -/
def advance (e : Engine) (delta : Duration) : Engine :=
  if e.stage = .running then { e with cache := e.cache.tick delta, frames := e.frames + 1 }
  else e

/-- The step out of the stage before the first tick. -/
def start (e : Engine) : Engine :=
  if e.stage = .firstTick then { e.record .firstTick with stage := .running } else e

/-- Lets time pass; the scheduled actions that were performed are given too. An
engine that was not initialized is initialized instead, and one that has quit
stays as it is. -/
def tick (e : Engine) (delta : Duration) : Engine × Except TickError (List Scheduled) :=
  match e.stage with
  | .init => (e.init, .ok [])
  | .quit => (e, .ok [])
  | .firstTick | .running | .paused =>
    let e := e.start
    match e.clock.add? delta with
    | none => (e, .error .clockOverflow)
    | some clock =>
      let (e, performed) := { e with clock := clock }.performDue
      (e.advance delta, .ok performed)

/-- The time until the next pending action is due. -/
def untilNext? (e : Engine) : Option Duration :=
  e.actions.pending.head?.map fun next => next.due.since e.clock

/-- Ticks from one pending action to the next until the engine quits or nothing
is pending, at most a number of times. -/
def runSteps : Nat → Engine → Engine
  | 0, e => e
  | steps + 1, e =>
    if e.stage = .quit then e
    else
      match e.untilNext? with
      | none => e
      | some delta =>
        match e.tick delta with
        | (e, .error _) => e
        | (e, .ok _) => runSteps steps e

/-- Ticks until the engine quits. Time passes from one pending action to the next;
the first tick may be spent on initializing, every other one performs an action. -/
def run (e : Engine) : Engine := runSteps (e.actions.len + 1) e

/-- The text of an engine. -/
def describe (e : Engine) : String :=
  "Engine \x7b state: " ++ e.stage.label ++ ", clock: " ++ e.clock.describe ++
    ", frames: " ++ toString e.frames ++ ", pending_actions: " ++ toString e.actions.len ++
    ", resources: " ++ e.cache.describe ++ " \x7d"

end Engine

end TileEngine
