import TileEngine.Png.Header

/-!
The chunks in front of the image data. A damaged chunk is fatal if it is critical;
of the others only those are read that can make a file unreadable: what describes
the image as a frame of an animation, and its colour space.
-/

namespace TileEngine.Png

/-- What is known of a file in front of its image data: besides header and palette
the announced number of frames, the number of the last frame description, and
whether the colour space is given. -/
structure Preamble where
  header : Header
  palette : Option (Array UInt8)
  frames : Option Nat
  frame : Option Nat
  colorSpace : Bool
  deriving DecidableEq, Repr

namespace Preamble

/-- What is known after the header. -/
def ofHeader (h : Header) : Preamble := ⟨h, none, none, none, false⟩

/-- Takes a palette, of which there may be one. -/
def withPalette? (p : Preamble) (data : Array UInt8) : Option Preamble :=
  if p.palette.isNone then some { p with palette := some data } else none

/-- Takes the announcement of an animation. -/
def withAnimation (p : Preamble) (data : Array UInt8) : Preamble :=
  if data.size = 8 then { p with frames := word? data 0 } else p

/-- Takes the description of a frame. Descriptions are numbered from zero, and a
frame that is the image itself covers all of it. -/
def withFrame? (p : Preamble) (data : Array UInt8) : Option Preamble := do
  let number ← word? data 0
  let expected := match p.frame with
    | some number => number + 1
    | none => 0
  let covers := (← word? data 4) == p.header.width && (← word? data 8) == p.header.height &&
    (← word? data 12) == 0 && (← word? data 16) == 0
  let disposal ← data[24]?
  let blending ← data[25]?
  if number = expected && covers && disposal ≤ 2 && blending ≤ 1 then
    return { p with frame := some number }
  else none

/-- Takes the colour space: three code points and a flag. The first one in front of
the palette counts. Samples are never stored as luminance and chrominance, so the
third code point is zero. -/
def withColorSpace? (p : Preamble) (data : Array UInt8) : Option Preamble :=
  if data.size != 4 || p.colorSpace || p.palette.isSome then some p
  else if data.getD 2 0 = 0 && data.getD 3 0 ≤ 1 then some { p with colorSpace := true }
  else none

/-- Takes a chunk that is intact or not; none if that makes the file unreadable. -/
def withChunk? (p : Preamble) (file : Array UInt8) (c : ChunkHead) (intact : Bool) :
    Option Preamble :=
  if c.isCritical then
    if intact && c.type = paletteType then p.withPalette? (c.data file) else none
  else if !intact then some p
  else if c.type = animationType then some (p.withAnimation (c.data file))
  else if c.type = frameType then p.withFrame? (c.data file)
  else if c.type = colorSpaceType then p.withColorSpace? (c.data file)
  else some p

/-- Whether image data may follow: an image with palette indices needs a palette,
and an image that is a frame belongs to an animation with frames. -/
def isComplete (p : Preamble) : Bool :=
  (p.header.color != .indexed || p.palette.isSome) && (p.frames != some 0 || p.frame.isNone)

end Preamble

/-- Reads chunks up to the first image data, and its address; the first number
bounds them. Data of later frames comes after the image data only. -/
def readChunks (file : Array UInt8) : Nat → Preamble → (address : Nat) → Option (Preamble × Nat)
  | 0, _, _ => none
  | steps + 1, p, address => do
    let chunk ← chunkHead? file address
    if chunk.type = dataType then if p.isComplete then some (p, address) else none
    else if chunk.type = frameDataType || !chunk.lengthOk then none
    else
      let p ← p.withChunk? file chunk (← chunk.intact? file)
      readChunks file steps p chunk.next

/-- Reads the header chunk, which comes first, and the chunks up to the first image
data. -/
def readPreamble (file : Array UInt8) (address : Nat) : Option (Preamble × Nat) := do
  let chunk ← chunkHead? file address
  if chunk.type != headerType || !chunk.lengthOk || (← chunk.intact? file) != true then none
  let header ← Header.ofData? (chunk.data file)
  readChunks file file.size (.ofHeader header) chunk.next

end TileEngine.Png
