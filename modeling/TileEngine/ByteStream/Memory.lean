/-!
Byte streams over a buffer. Reads are exact: a read gives all the bytes asked
for, or fails and leaves the position where it was.
-/

namespace TileEngine

/-- A failure of the file system, kept apart by its text alone. -/
structure IoFailure where
  text : String
  deriving DecidableEq, Repr

/-- Why a stream operation, or the opening of a stream, is refused. -/
inductive StreamError where
  | seekOutOfRange (position size : Nat)
  | readPastEnd (requested remaining : Nat)
  | notFound (name : String)
  | io (cause : IoFailure)
  deriving DecidableEq, Repr

/-- The wording of a stream error. -/
def StreamError.message : StreamError → String
  | .seekOutOfRange position size =>
    s!"cannot seek to {position}, the stream is {size} bytes long"
  | .readPastEnd requested remaining =>
    s!"cannot read {requested} bytes, only {remaining} remain"
  | .notFound name => s!"no stream named '{name}'"
  | .io cause => cause.text

/-- A stream over bytes that it owns. -/
structure MemoryStream where
  data : Array UInt8
  position : Nat
  deriving DecidableEq, Repr

namespace MemoryStream

/-- The stream over some bytes, at their start. -/
def ofBytes (data : Array UInt8) : MemoryStream := ⟨data, 0⟩

/-- Moves to an absolute position, the end included. -/
def seek (s : MemoryStream) (position : Nat) : Except StreamError MemoryStream :=
  if position > s.data.size then .error (.seekOutOfRange position s.data.size)
  else .ok { s with position := position }

/-- Reads a number of bytes and moves past them. -/
def read (s : MemoryStream) (count : Nat) : Except StreamError (Array UInt8 × MemoryStream) :=
  let remaining := s.data.size - s.position
  if count > remaining then .error (.readPastEnd count remaining)
  else
    .ok (s.data.extract s.position (s.position + count),
      { s with position := s.position + count })

end MemoryStream

end TileEngine
