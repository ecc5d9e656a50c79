import TileEngine.Duration
import TileEngine.Resource.Error
import TileEngine.Resource.Payload

/-!
The record of what happens: messages of the cache and of the engine with their
levels, the calls of decoders, and what payloads live through.
-/

namespace TileEngine

/-- The level of a message. -/
inductive Level where
  | error
  | warn
  | info
  | debug
  deriving DecidableEq, Repr

/-- The word in front of a message. -/
def Level.label : Level → String
  | .error => "error"
  | .warn => "warn"
  | .info => "info"
  | .debug => "debug"

/-- The stages of an engine's life. -/
inductive Stage where
  | init
  | firstTick
  | running
  | paused
  | quit
  deriving DecidableEq, Repr, Inhabited

/-- The name of a stage. -/
def Stage.label : Stage → String
  | .init => "Init"
  | .firstTick => "FirstTick"
  | .running => "Running"
  | .paused => "Paused"
  | .quit => "Quit"

/-- Something that happened. -/
inductive Event where
  | loaderAdded (count : Nat)
  | created (key : Key)
  | known (key : Key)
  | discarded (name : String)
  | unloading (key : Key)
  | lost (key : Key)
  | ownerGone (key : Key)
  | noLoader (key : Key)
  | notOpened (name : String) (cause : StreamError)
  | notRewound (name : String) (cause : StreamError)
  | notAccepted (key : Key)
  | loaded (key : Key)
  | notLoaded (key : Key) (cause : DecodeFailure)
  | timedOut (name : String)
  | pictureDecoded (name : String) (size : Vec2)
  | mapDecoded (name : String)
  | drawnBlind
  | initializing (loaders hz : Nat)
  | reinitialized (stage : Stage)
  | firstTick
  | quitting (frames : Nat)
  | unhandled (id : UInt32)
  | handled (id : UInt32)
  | probed (tag : String) (position : Nat)
  | decoding (tag : String) (key : Key) (position : Nat)
  | ticked (payload : PayloadId) (voice : Option String) (delta : Duration)
  | destroyed (payload : PayloadId) (voice : Option String)
  deriving DecidableEq, Repr

namespace Event

/-- A key as messages name it. -/
def keyText (key : Key) : String := s!"'{key.name}' ({key.kind.label})"

/-- A key with its kind in front. -/
def kindText (key : Key) : String := s!"{key.kind.label} '{key.name}'"

/-- The message of an event, with its level; other events have none. -/
def message? : Event → Option (Level × String)
  | .loaderAdded count => some (.debug, s!"Registered resource loader #{count}")
  | .created key => some (.info, "New resource " ++ keyText key)
  | .known key => some (.debug, "Resource " ++ keyText key ++ " already known")
  | .discarded name => some (.debug, s!"Discarding new value for cached resource '{name}'")
  | .unloading key => some (.info, "Unloading resource " ++ keyText key)
  | .lost key => some (.error, "Failed to find cache entry for resource " ++ keyText key)
  | .ownerGone key =>
    some (.error, "Cannot load " ++ keyText key ++ ": its resource manager is gone")
  | .noLoader key => some (.error, "No loader registered for " ++ kindText key)
  | .notOpened name cause =>
    some (.error, s!"Failed to open stream for '{name}': {cause.message}")
  | .notRewound name cause =>
    some (.error, s!"Failed to rewind stream for '{name}': {cause.message}")
  | .notAccepted key => some (.error, "No loader accepted the data of " ++ kindText key)
  | .loaded key => some (.info, "Loaded " ++ kindText key)
  | .notLoaded key cause =>
    some (.error, "Failed to load " ++ kindText key ++ ": " ++ cause.message)
  | .timedOut name => some (.warn, s!"Timed out waiting for '{name}' to load")
  | .pictureDecoded name size =>
    some (.debug, s!"Decoded '{name}' into a {size.x}x{size.y} bitmap")
  | .mapDecoded name => some (.info, s!"Map '{name}' loaded successfully")
  | .drawnBlind => some (.warn, "Tile map drawn without a usable tileset image")
  | .initializing loaders hz =>
    some (.info, s!"Initializing engine ({loaders} loaders, tick rate {hz} Hz)")
  | .reinitialized stage =>
    some (.error, s!"Trying to re-initialize engine (state: {stage.label})")
  | .firstTick => some (.debug, "First engine tick")
  | .quitting frames => some (.info, s!"Engine quitting after {frames} frames")
  | .unhandled id => some (.warn, s!"No handler for custom action {id}")
  | .handled _ | .probed .. | .decoding .. | .ticked .. | .destroyed .. => none

/-- The line of an event; payloads without a voice pass in silence. -/
def line? (e : Event) : Option String :=
  match e.message? with
  | some (level, text) => some (level.label ++ ": " ++ text)
  | none =>
    match e with
    | .probed tag position => some s!"probe {tag} at {position}"
    | .decoding tag key position =>
      some s!"load {tag} {key.name} ({key.kind.label}) at {position}"
    | .ticked _ (some text) delta => some s!"tick {text} {delta.nanos}"
    | .destroyed _ (some text) => some s!"drop {text}"
    | _ => none

end Event

end TileEngine
