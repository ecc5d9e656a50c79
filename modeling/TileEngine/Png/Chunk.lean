/-!
The framing of a PNG file: a signature, then chunks of a length, a type, data
and a check value over type and data.
-/

namespace TileEngine.Png

/-- The eight bytes at the start of every file. -/
def signature : List UInt8 := [0x89, 0x50, 0x4E, 0x47, 0x0D, 0x0A, 0x1A, 0x0A]

/-- One bit of the check value's division. -/
def checkBit (value : UInt32) : UInt32 :=
  if value &&& 1 = 0 then value >>> 1 else (value >>> 1) ^^^ 0xEDB88320

/-- Eight bits of it, for one more byte. -/
def checkByte (value : UInt32) (byte : UInt8) : UInt32 :=
  (List.range 8).foldl (fun v _ => checkBit v) (value ^^^ byte.toUInt32)

/-- The check value of bytes. -/
def checkValue (bytes : Array UInt8) : UInt32 :=
  bytes.foldl checkByte 0xFFFFFFFF ^^^ 0xFFFFFFFF

/-- The four bytes at an address as a number, the highest first. -/
def word? (file : Array UInt8) (address : Nat) : Option Nat :=
  if address + 4 ≤ file.size then
    some ((file.extract address (address + 4)).foldl (fun n b => n * 256 + b.toNat) 0)
  else none

/-- Where a chunk starts in a file, how long its data is and what it is. -/
structure ChunkHead where
  start : Nat
  length : Nat
  type : List UInt8
  deriving DecidableEq, Repr

/-- The head of the chunk at an address. -/
def chunkHead? (file : Array UInt8) (address : Nat) : Option ChunkHead := do
  let length ← word? file address
  if address + 8 ≤ file.size then
    return ⟨address, length, (file.extract (address + 4) (address + 8)).toList⟩
  else none

namespace ChunkHead

/-- The address of the chunk after this one. -/
def next (c : ChunkHead) : Nat := c.start + 12 + c.length

/-- The data of the chunk. -/
def data (c : ChunkHead) (file : Array UInt8) : Array UInt8 :=
  file.extract (c.start + 8) (c.start + 8 + c.length)

/-- Whether the check value is the stored one; none when the file ends before. -/
def intact? (c : ChunkHead) (file : Array UInt8) : Option Bool := do
  let stored ← word? file (c.start + 8 + c.length)
  return (checkValue (file.extract (c.start + 4) (c.start + 8 + c.length))).toNat == stored

/-- A chunk without which the image cannot be shown. -/
def isCritical (c : ChunkHead) : Bool :=
  match c.type with
  | first :: _ => first &&& 0x20 == 0
  | [] => false

end ChunkHead

/-- The type of the image header. -/
def headerType : List UInt8 := [0x49, 0x48, 0x44, 0x52]

/-- The type of a palette. -/
def paletteType : List UInt8 := [0x50, 0x4C, 0x54, 0x45]

/-- The type of image data. -/
def dataType : List UInt8 := [0x49, 0x44, 0x41, 0x54]

/-- The type that announces an animation. -/
def animationType : List UInt8 := [0x61, 0x63, 0x54, 0x4C]

/-- The type that describes a frame of an animation. -/
def frameType : List UInt8 := [0x66, 0x63, 0x54, 0x4C]

/-- The type of the data of later frames. -/
def frameDataType : List UInt8 := [0x66, 0x64, 0x41, 0x54]

/-- The type that names a colour space by its code points. -/
def colorSpaceType : List UInt8 := [0x63, 0x49, 0x43, 0x50]

namespace ChunkHead

/-- Whether the data is as long as its type demands, for the chunks that nobody
may pass over. -/
def lengthOk (c : ChunkHead) : Bool :=
  if c.type = headerType then c.length = 13
  else if c.type = paletteType then 3 ≤ c.length && c.length ≤ 768
  else if c.type = frameType then c.length = 26
  else true

end ChunkHead

end TileEngine.Png
