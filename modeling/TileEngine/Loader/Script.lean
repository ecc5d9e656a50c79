import TileEngine.Event
import TileEngine.ByteStream.Basic

/-!
Loaders. A loader says which kinds it can make, looks at the start of a stream,
and turns a stream into a script: what it does to the cache while it decodes, up
to the payload or the reason why there is none.
-/

namespace TileEngine

/-- What a decoder does. Handles that it took belong to it: those that the
payload holds go there, all others are given back when the script ends. -/
inductive LoadScript where
  /-- Ends with a payload. -/
  | finish (payload : Payload)
  /-- Ends with a reason. -/
  | fail (cause : DecodeFailure)
  /-- Ends in a panic. -/
  | panic (message : String)
  /-- Records an event. -/
  | record (event : Event) (next : LoadScript)
  /-- Takes a handle without loading anything. -/
  | request (key : Key) (next : Handle → LoadScript)
  /-- Takes a handle and loads its resource. Without a resource the handle is
  given back before the script goes on. -/
  | demand (key : Key) (next : Except ResourceError Handle → LoadScript)
  /-- Gets the resource of a handle. -/
  | inspect (handle : Handle) (next : Except ResourceError Payload → LoadScript)

/-- What a loader sees of the cache: what is asked for, and whether callers that
wait for a load ever give up. -/
structure LoadContext where
  key : Key
  bounded : Bool
  deriving DecidableEq, Repr

/-- The result of a look at a stream: whether the loader accepts it, the stream
after the look, and what the loader reports. -/
structure Probe where
  accepted : Bool
  stream : ByteStream
  events : List Event

/-- A decoder of resources. -/
structure Loader where
  supports : Kind → Bool
  probe : ByteStream → Probe
  /-- What is reported when decoding starts. -/
  opening : ByteStream → LoadContext → List Event
  decode : ByteStream → LoadContext → LoadScript

/-- The outcome of the search for a loader. -/
inductive Choice where
  | chosen (loader : Loader) (stream : ByteStream)
  | notRewound (cause : StreamError)
  | nobody

namespace Loader

/-- Offers a stream to loaders in their order, rewound for each of them, up to
the first one that accepts it; that one gets it rewound once more. What the
loaders reported comes with the outcome. -/
def choose : List Loader → ByteStream → List Event × Choice
  | [], _ => ([], .nobody)
  | loader :: rest, s =>
    match s.seek 0 with
    | (.error cause, _) => ([], .notRewound cause)
    | (.ok (), s) =>
      let look := loader.probe s
      if look.accepted then
        match look.stream.seek 0 with
        | (.error cause, _) => (look.events, .notRewound cause)
        | (.ok (), s) => (look.events, .chosen loader s)
      else
        let (events, choice) := choose rest look.stream
        (look.events ++ events, choice)

end Loader

end TileEngine
