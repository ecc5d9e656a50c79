import TileEngine.ByteStream.Memory

/-!
Byte streams over an open file. The stream remembers the size the file had when
it was opened; the file itself may have been shortened since, and then a read
that the remembered size allows still fails.
-/

namespace TileEngine

/-- What the file system knows of an open file: its bytes now, or that it is a
directory, and where the next read starts. -/
structure OpenFile where
  content : Option (Array UInt8)
  cursor : Nat
  deriving DecidableEq, Repr

namespace OpenFile

/-- Places the cursor; positions past the end are allowed. -/
def seek (f : OpenFile) (position : Nat) : OpenFile := { f with cursor := position }

/-- Reads exactly a number of bytes. When there are too few, the cursor is left
after the last one and the read fails. A directory has no bytes. -/
def readExact (f : OpenFile) (count : Nat) : Except IoFailure (Array UInt8) × OpenFile :=
  if count = 0 then (.ok #[], f)
  else match f.content with
    | none => (.error ⟨"Is a directory (os error 21)"⟩, f)
    | some bytes =>
      if f.cursor + count ≤ bytes.size then
        (.ok (bytes.extract f.cursor (f.cursor + count)),
          { f with cursor := f.cursor + count })
      else (.error ⟨"failed to fill whole buffer"⟩, { f with cursor := max f.cursor bytes.size })

/-- Sets the length of the file on disk; new bytes are zero. -/
def setLength (f : OpenFile) (length : Nat) : OpenFile :=
  { f with
    content := f.content.map fun bytes =>
      bytes.extract 0 length ++ Array.replicate (length - bytes.size) 0 }

end OpenFile

/-- A stream over an open file. -/
structure FileStream where
  file : OpenFile
  size : Nat
  position : Nat
  deriving DecidableEq, Repr

namespace FileStream

/-- The stream over a file with the given bytes, at their start. -/
def ofBytes (data : Array UInt8) : FileStream := ⟨⟨some data, 0⟩, data.size, 0⟩

/-- The size that is reported for a directory. -/
def directorySize : Nat := 4096

/-- The stream over a directory, which can be opened but not read. -/
def ofDirectory : FileStream := ⟨⟨none, 0⟩, directorySize, 0⟩

/-- Moves to an absolute position, the end included. -/
def seek (s : FileStream) (position : Nat) : Except StreamError FileStream :=
  if position > s.size then .error (.seekOutOfRange position s.size)
  else .ok { s with file := s.file.seek position, position := position }

/-- Reads a number of bytes and moves past them. When the file fails, its cursor
is put back to the position; the stream as it is then comes with the error. -/
def read (s : FileStream) (count : Nat) :
    Except StreamError (Array UInt8) × FileStream :=
  let remaining := s.size - s.position
  if count > remaining then (.error (.readPastEnd count remaining), s)
  else match s.file.readExact count with
    | (.ok bytes, file) => (.ok bytes, { s with file := file, position := s.position + count })
    | (.error cause, file) => (.error (.io cause), { s with file := file.seek s.position })

/-- Shortens or lengthens the file behind the stream. -/
def setLength (s : FileStream) (length : Nat) : FileStream :=
  { s with file := s.file.setLength length }

end FileStream

end TileEngine
