import TileEngine.Loader.Script

/-!
Loaders of tagged texts: a stream that starts with the loader's tag is its text,
and what becomes of the rest, the body, depends on the loader's manner. They
report every look at a stream and every decoding.
-/

namespace TileEngine

/-- What a loader of tagged texts does with a body. -/
inductive Manner where
  /-- A note with the body as its text. -/
  | note
  /-- Refuses. -/
  | fail
  /-- Panics. -/
  | panic
  /-- Reads four bytes more than there are. -/
  | pastEnd
  /-- A sprite, whatever is asked for. -/
  | sprite
  /-- A note that links the notes named in the body. -/
  | links
  /-- The same, with every linked note loaded at once. -/
  | linksNow
  /-- Asks for the note of its own name. -/
  | reenter
  deriving DecidableEq, Repr

/-- A loader of tagged texts. -/
structure Tagged where
  manner : Manner
  tag : String
  kinds : List Kind
  deriving DecidableEq, Repr

namespace Tagged

/-- The length of the tag in bytes. -/
def tagLength (t : Tagged) : Nat := t.tag.utf8ByteSize

/-- A stream is accepted if its first bytes are the tag. -/
def probe (t : Tagged) (s : ByteStream) : Probe :=
  let events := [Event.probed t.tag s.position]
  match s.read t.tagLength with
  | (.ok bytes, s) => ⟨bytes.toList == Text.encode t.tag, s, events⟩
  | (.error _, s) => ⟨false, s, events⟩

/-- The bytes behind the tag, and the stream behind them. -/
def body (t : Tagged) (s : ByteStream) : Except StreamError String × ByteStream :=
  match s.seek t.tagLength with
  | (.error cause, s) => (.error cause, s)
  | (.ok (), s) =>
    let (r, s) := s.readToEnd
    (r.map fun bytes => Text.decodeLossy bytes.toList, s)

/-- The names in a body: what stands between commas, if anything does. -/
def linkNames (body : String) : List String :=
  (body.splitToList (· == ',')).filter (· != "")

/-- Links notes without loading them; the links come in reverse. -/
def linkScript (text : String) : List String → List Handle → LoadScript
  | [], taken => .finish (.note text taken.reverse)
  | name :: rest, taken =>
    .request ⟨name, .note⟩ fun link => linkScript text rest (link :: taken)

/-- Links notes and loads them; the first one that fails ends the script. -/
def linkNowScript (text : String) : List String → List Handle → LoadScript
  | [], taken => .finish (.note text taken.reverse)
  | name :: rest, taken =>
    .demand ⟨name, .note⟩ fun
      | .ok link => linkNowScript text rest (link :: taken)
      | .error cause => .fail (.resource cause)

/-- The word for a resource error in a note. -/
def errorWord : ResourceError → String
  | .nullHandle => "NullHandle"
  | .typeMismatch .. => "TypeMismatch"
  | .loadFailed _ => "LoadFailed"
  | .timedOut _ => "LoadTimedOut"

/-- Asks for the note of the same name and keeps its text, or the word for the
error. Without a limit on waiting this is refused, since it would wait for
itself. -/
def reenterScript (context : LoadContext) : LoadScript :=
  if !context.bounded then .fail .reentry
  else
    .request ⟨context.key.name, .note⟩ fun own =>
      .inspect own fun
        | .ok payload => .finish (.note (payload.voice.getD "") [])
        | .error cause => .finish (.note (errorWord cause) [])

/-- What becomes of a body. -/
def script (t : Tagged) (text : String) (s : ByteStream) (context : LoadContext) : LoadScript :=
  match t.manner with
  | .note => .finish (.note text [])
  | .fail => .fail (.refused text)
  | .panic => .panic ("loader panic " ++ text)
  | .pastEnd =>
    match (s.read 4).1 with
    | .ok _ => .finish (.note text [])
    | .error cause => .fail (.stream cause)
  | .sprite => .finish .sprite
  | .links => linkScript text (linkNames text) []
  | .linksNow => linkNowScript text (linkNames text) []
  | .reenter => reenterScript context

/-- Decodes a stream that was accepted. -/
def decode (t : Tagged) (s : ByteStream) (context : LoadContext) : LoadScript :=
  match t.body s with
  | (.error cause, _) => .fail (.stream cause)
  | (.ok text, s) => t.script text s context

/-- The loader itself. -/
def loader (t : Tagged) : Loader where
  supports := t.kinds.contains
  probe := t.probe
  opening s context := [.decoding t.tag context.key s.position]
  decode := t.decode

end Tagged

end TileEngine
