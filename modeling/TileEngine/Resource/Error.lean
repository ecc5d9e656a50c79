import TileEngine.Bitmap.Basic
import TileEngine.ByteStream.Memory
import TileEngine.Resource.Handle

/-!
What can go wrong between a handle and its resource: the errors a handle
reports, the reasons a decoder gives, and the two ways in which a call does not
come back with an answer.
-/

namespace TileEngine

/-- Why a handle gives no resource. -/
inductive ResourceError where
  | nullHandle
  | typeMismatch (name : String) (expected : Kind)
  | loadFailed (key : Key)
  | timedOut (name : String)
  deriving DecidableEq, Repr

/-- The wording of a resource error. How long a caller waited is left out. -/
def ResourceError.message : ResourceError → String
  | .nullHandle => "the resource handle is null"
  | .typeMismatch name expected =>
    s!"resource '{name}' was loaded, but not as a {expected.label}"
  | .loadFailed key => s!"resource '{key.name}' ({key.kind.label}) failed to load"
  | .timedOut name => s!"gave up waiting for '{name}'"

/-- Why a decoder gives no payload. -/
inductive DecodeFailure where
  | stream (cause : StreamError)
  | bitmap (cause : BitmapError)
  | resource (cause : ResourceError)
  | damagedPng (name : String)
  | invalidMap (name : String)
  | noLayers (name : String)
  | layerSize (layerWidth layerHeight width height : UInt16)
  | layerCells (count expected : Nat)
  | noTileset (name : String)
  | unknownTiles (highest count : UInt16)
  | refused (body : String)
  | reentry
  deriving DecidableEq, Repr

/-- The wording of a decoder's reason. -/
def DecodeFailure.message : DecodeFailure → String
  | .stream cause => cause.message
  | .bitmap cause => cause.message
  | .resource cause => cause.message
  | .damagedPng name => s!"Failed to decode PNG '{name}'"
  | .invalidMap name => s!"World '{name}' is not valid"
  | .noLayers name => s!"World '{name}' has no layers"
  | .layerSize layerWidth layerHeight width height =>
    s!"Layer is {layerWidth}x{layerHeight} but the world is {width}x{height}"
  | .layerCells count expected => s!"Layer data has {count} cells, expected {expected}"
  | .noTileset name => s!"No tileset in world '{name}'"
  | .unknownTiles highest count =>
    s!"Inconsistent number of tiles, map uses id {highest} but the tileset knows about {count}"
  | .refused body => s!"refused {body}"
  | .reentry => "reentry would deadlock"

/-- How a call ends without a value: with an error, by a panic of a decoder, or
not at all, when it waits for itself without a limit. -/
inductive Failure where
  | error (cause : ResourceError)
  | panic (message : String)
  | stuck
  deriving DecidableEq, Repr

end TileEngine
