import TileEngine.ByteStream.File
import TileEngine.Text.Utf8

/-!
Byte streams of either kind, and the reads that are built from seeking and exact
reading: everything up to the end, a line, and a look ahead.
-/

namespace TileEngine

/-- A seekable source of bytes. -/
inductive ByteStream where
  | memory (s : MemoryStream)
  | file (s : FileStream)
  deriving DecidableEq, Repr

namespace ByteStream

/-- The number of bytes from start to end. -/
def size : ByteStream → Nat
  | .memory s => s.data.size
  | .file s => s.size

/-- Where the next read starts. -/
def position : ByteStream → Nat
  | .memory s => s.position
  | .file s => s.position

/-- The number of bytes up to the end. -/
def remaining (s : ByteStream) : Nat := s.size - s.position

/-- Every byte has been read. -/
def atEnd (s : ByteStream) : Bool := s.remaining == 0

/-- Moves to an absolute position; a refused move leaves the stream as it is. -/
def seek (s : ByteStream) (position : Nat) : Except StreamError Unit × ByteStream :=
  match s with
  | .memory m =>
    match m.seek position with
    | .ok m => (.ok (), .memory m)
    | .error e => (.error e, .memory m)
  | .file f =>
    match f.seek position with
    | .ok f => (.ok (), .file f)
    | .error e => (.error e, .file f)

/-- Reads exactly a number of bytes. -/
def read (s : ByteStream) (count : Nat) : Except StreamError (Array UInt8) × ByteStream :=
  match s with
  | .memory m =>
    match m.read count with
    | .ok (bytes, m) => (.ok bytes, .memory m)
    | .error e => (.error e, .memory m)
  | .file f =>
    let (r, f) := f.read count
    (r, .file f)

/-- Reads everything up to the end. -/
def readToEnd (s : ByteStream) : Except StreamError (Array UInt8) × ByteStream := s.read s.remaining

/-- Collects the bytes of a line. Each step reads one byte; the first argument
bounds the steps. A line feed ends the line, a carriage return is dropped. -/
def collectLine : (steps max : Nat) → (line : Array UInt8) → ByteStream →
    Except StreamError (Array UInt8) × ByteStream
  | 0, _, line, s => (.ok line, s)
  | steps + 1, max, line, s =>
    if line.size < max && !s.atEnd then
      match s.read 1 with
      | (.error e, s) => (.error e, s)
      | (.ok bytes, s) =>
        match (bytes[0]? : Option UInt8) with
        | some 10 => (.ok line, s)
        | some 13 => collectLine steps max line s
        | some byte => collectLine steps max (line.push byte) s
        | none => (.ok line, s)
    else (.ok line, s)

/-- The bytes of one line, at most `max` of them, without its ending. -/
def readLineBytes (s : ByteStream) (max : Nat) : Except StreamError (Array UInt8) × ByteStream :=
  collectLine s.remaining max #[] s

/-- One line as text. -/
def readLine (s : ByteStream) (max : Nat) : Except StreamError String × ByteStream :=
  let (r, s) := s.readLineBytes max
  (r.map fun bytes => Text.decodeLossy bytes.toList, s)

/-- Reads up to a number of bytes and goes back. -/
def peek (s : ByteStream) (count : Nat) : Except StreamError (Array UInt8) × ByteStream :=
  let start := s.position
  match s.read (min count s.remaining) with
  | (.error e, s) => (.error e, s)
  | (.ok bytes, s) =>
    match s.seek start with
    | (.ok _, s) => (.ok bytes, s)
    | (.error e, s) => (.error e, s)

/-- Sets the length of the file behind a stream; memory has none. -/
def setLength (s : ByteStream) (length : Nat) : ByteStream :=
  match s with
  | .memory m => .memory m
  | .file f => .file (f.setLength length)

end ByteStream

end TileEngine
