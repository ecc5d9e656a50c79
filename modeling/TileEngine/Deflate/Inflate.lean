import TileEngine.Deflate.Huffman

/-!
Decompression of a deflate stream inside its two-byte header and four-byte
checksum. The checksum belongs to the stream, but its value is not compared. What
was decompressed is given even if the stream is cut short or damaged, with how it
ended.
-/

namespace TileEngine.Deflate

/-- The base value and the number of further bits of each length symbol. -/
def lengthCodes : Array (Nat × Nat) := #[
  (3, 0), (4, 0), (5, 0), (6, 0), (7, 0), (8, 0), (9, 0), (10, 0), (11, 1), (13, 1), (15, 1),
  (17, 1), (19, 2), (23, 2), (27, 2), (31, 2), (35, 3), (43, 3), (51, 3), (59, 3), (67, 4),
  (83, 4), (99, 4), (115, 4), (131, 5), (163, 5), (195, 5), (227, 5), (258, 0)]

/-- The base value and the number of further bits of each distance symbol. -/
def distanceCodes : Array (Nat × Nat) := #[
  (1, 0), (2, 0), (3, 0), (4, 0), (5, 1), (7, 1), (9, 2), (13, 2), (17, 3), (25, 3), (33, 4),
  (49, 4), (65, 5), (97, 5), (129, 6), (193, 6), (257, 7), (385, 7), (513, 8), (769, 8),
  (1025, 9), (1537, 9), (2049, 10), (3073, 10), (4097, 11), (6145, 11), (8193, 12),
  (12289, 12), (16385, 13), (24577, 13)]

/-- The order in which the word lengths of the length code are stored. -/
def lengthOrder : List Nat :=
  [16, 17, 18, 0, 8, 7, 9, 6, 10, 5, 11, 4, 12, 3, 13, 2, 14, 1, 15]

/-- The code of literals and lengths that needs no description. -/
def fixedLiterals : Huffman :=
  Huffman.ofLengths (Array.replicate 144 8 ++ Array.replicate 112 9 ++ Array.replicate 24 7 ++
    Array.replicate 8 8)

/-- The code of distances that needs no description. -/
def fixedDistances : Huffman := Huffman.ofLengths (Array.replicate 32 5)

/-- Appends bytes that were written a distance ago, one at a time. -/
def copyBack (out : Array UInt8) (distance : Nat) : Nat → Array UInt8
  | 0 => out
  | count + 1 => copyBack (out.push (out.getD (out.size - distance) 0)) distance count

/-- A value given by a symbol and further bits. -/
def extended (codes : Array (Nat × Nat)) (symbol : Nat) (r : BitReader) :
    Except Fault (Nat × BitReader) :=
  match (codes[symbol]? : Option (Nat × Nat)) with
  | none => .error .damaged
  | some (base, extra) => do
    let (more, r) ← BitReader.bits extra r
    return (base + more, r)

/-- How decompression ends: behind the last item, with as many bytes as were asked
for, or because nothing more can be read. -/
inductive Ending where
  | finished (r : BitReader)
  | full
  | stopped (fault : Fault)
  deriving DecidableEq, Repr

/-- What was decompressed, and how it ended. -/
structure Progress where
  out : Array UInt8
  ending : Ending
  deriving DecidableEq, Repr

/-- An item of a compressed block: a byte, bytes that were written before, or the
end of the block. -/
inductive Item where
  | literal (byte : UInt8)
  | copy (distance length : Nat)
  | stop
  deriving DecidableEq, Repr

/-- Reads one item. -/
def readItem (literals distances : Huffman) (r : BitReader) : Except Fault (Item × BitReader) := do
  let (symbol, r) ← literals.decode r
  if symbol < 256 then return (.literal symbol.toUInt8, r)
  else if symbol = 256 then return (.stop, r)
  else
    let (length, r) ← extended lengthCodes (symbol - 257) r
    let (symbol, r) ← distances.decode r
    let (distance, r) ← extended distanceCodes symbol r
    return (.copy distance length, r)

/-- Reads items up to the end of a block, or until there are `limit` bytes; the
second number bounds the items, each of them taking at least one bit. -/
def blockItems (literals distances : Huffman) (limit : Nat) : Nat → Array UInt8 → BitReader →
    Progress
  | 0, out, _ => ⟨out, .stopped .damaged⟩
  | steps + 1, out, r =>
    if limit ≤ out.size then ⟨out, .full⟩
    else
      match readItem literals distances r with
      | .error fault => ⟨out, .stopped fault⟩
      | .ok (.stop, r) => ⟨out, .finished r⟩
      | .ok (.literal byte, r) => blockItems literals distances limit steps (out.push byte) r
      | .ok (.copy distance length, r) =>
        if distance > out.size then ⟨out, .stopped .damaged⟩
        else blockItems literals distances limit steps (copyBack out distance length) r

/-- Copies the bytes of a stored block, until there are `limit` bytes. -/
def storedBytes (limit : Nat) : (count : Nat) → Array UInt8 → BitReader → Progress
  | 0, out, r => ⟨out, .finished r⟩
  | count + 1, out, r =>
    if limit ≤ out.size then ⟨out, .full⟩
    else
      match BitReader.bits 8 r with
      | .error fault => ⟨out, .stopped fault⟩
      | .ok (byte, r) => storedBytes limit count (out.push byte.toUInt8) r

/-- The length of a stored block, which is followed by its complement. -/
def storedLength (r : BitReader) : Except Fault (Nat × BitReader) := do
  let (length, r) ← BitReader.bits 16 r.align
  let (complement, r) ← BitReader.bits 16 r
  if length + complement = 0xFFFF then return (length, r) else .error .damaged

/-- Reads the three-bit word lengths of the length code. -/
def readLengthCode (r : BitReader) : List Nat → Array Nat →
    Except Fault (Array Nat × BitReader)
  | [], lengths => .ok (lengths, r)
  | place :: rest, lengths => do
    let (length, r) ← BitReader.bits 3 r
    readLengthCode r rest (lengths.setIfInBounds place length)

/-- Appends a word length several times, unless there would be too many. -/
def appendLengths (lengths : Array Nat) (wanted count length : Nat) :
    Except Fault (Array Nat) :=
  if lengths.size + count > wanted then .error .damaged
  else .ok (lengths ++ Array.replicate count length)

/-- The word length before, which a symbol repeats. -/
def lastLength (lengths : Array Nat) : Except Fault Nat :=
  match lengths.back? with
  | some length => .ok length
  | none => .error .damaged

/-- Reads word lengths until the wanted number is there; the first argument
bounds the number of symbols. -/
def readLengths (code : Huffman) (wanted : Nat) : Nat → Array Nat → BitReader →
    Except Fault (Array Nat × BitReader)
  | 0, lengths, r => if lengths.size = wanted then .ok (lengths, r) else .error .damaged
  | steps + 1, lengths, r =>
    if lengths.size = wanted then .ok (lengths, r)
    else do
      let (symbol, r) ← code.decode r
      if symbol < 16 then readLengths code wanted steps (lengths.push symbol) r
      else if symbol = 16 then
        let (more, r) ← BitReader.bits 2 r
        let lengths ← appendLengths lengths wanted (3 + more) (← lastLength lengths)
        readLengths code wanted steps lengths r
      else if symbol = 17 then
        let (more, r) ← BitReader.bits 3 r
        let lengths ← appendLengths lengths wanted (3 + more) 0
        readLengths code wanted steps lengths r
      else
        let (more, r) ← BitReader.bits 7 r
        let lengths ← appendLengths lengths wanted (11 + more) 0
        readLengths code wanted steps lengths r

/-- The two codes that a block describes at its start. -/
def describedCodes (r : BitReader) : Except Fault (Huffman × Huffman × BitReader) := do
  let (literalCount, r) ← BitReader.bits 5 r
  let (distanceCount, r) ← BitReader.bits 5 r
  let (lengthCount, r) ← BitReader.bits 4 r
  let literalCount := literalCount + 257
  let distanceCount := distanceCount + 1
  if literalCount > 286 || distanceCount > 30 then .error .damaged
  let (lengths, r) ← readLengthCode r (lengthOrder.take (lengthCount + 4)) (Array.replicate 19 0)
  let code := Huffman.ofLengths lengths
  if !code.isComplete then .error .damaged
  let wanted := literalCount + distanceCount
  let (lengths, r) ← readLengths code wanted wanted #[] r
  if lengths.getD 256 0 = 0 then .error .damaged
  let literals := Huffman.ofLengths (lengths.extract 0 literalCount)
  let distances := Huffman.ofLengths (lengths.extract literalCount wanted)
  if !literals.isComplete then .error .damaged
  if !distances.isComplete && !distances.isTrivial then .error .damaged
  return (literals, distances, r)

/-- The content of one block of a given kind. -/
def block (limit kind : Nat) (out : Array UInt8) (r : BitReader) : Progress :=
  match kind with
  | 0 =>
    match storedLength r with
    | .error fault => ⟨out, .stopped fault⟩
    | .ok (length, r) => storedBytes limit length out r
  | 1 => blockItems fixedLiterals fixedDistances limit (r.total + 1) out r
  | 2 =>
    match describedCodes r with
    | .error fault => ⟨out, .stopped fault⟩
    | .ok (literals, distances, r) =>
      blockItems literals distances limit (r.total + 1) out r
  | _ => ⟨out, .stopped .damaged⟩

/-- The shortest block, in bits. Fewer bits are not looked at. -/
def shortestBlock : Nat := 10

/-- The head of a block: whether it is the last one, and its kind. -/
def blockHead (r : BitReader) : Except Fault (Bool × Nat × BitReader) := do
  if r.left < shortestBlock then .error .short
  let (last, r) ← BitReader.bits 1 r
  let (kind, r) ← BitReader.bits 2 r
  return (last == 1, kind, r)

/-- Reads blocks up to the last one, or until there are `limit` bytes; the second
number bounds the blocks. -/
def blocks (limit : Nat) : Nat → Array UInt8 → BitReader → Progress
  | 0, out, _ => ⟨out, .stopped .damaged⟩
  | steps + 1, out, r =>
    match blockHead r with
    | .error fault => ⟨out, .stopped fault⟩
    | .ok (last, kind, r) =>
      match block limit kind out r with
      | ⟨out, .finished r⟩ => if last then ⟨out, .finished r⟩ else blocks limit steps out r
      | progress => progress

/-- Whether two bytes announce a deflate stream without a preset dictionary. -/
def headerOk (first second : Nat) : Bool :=
  first % 16 == 8 && first / 16 ≤ 7 && second / 32 % 2 == 0 && (first * 256 + second) % 31 == 0

/-- Reads the header of a stream. -/
def streamHead (r : BitReader) : Except Fault BitReader := do
  let (first, r) ← BitReader.bits 8 r
  let (second, r) ← BitReader.bits 8 r
  if headerOk first second then return r else .error .damaged

/-- Reads the checksum, from the next byte on. -/
def checksum (out : Array UInt8) (r : BitReader) : Progress :=
  match BitReader.bits 32 r.align with
  | .error fault => ⟨out, .stopped fault⟩
  | .ok (_, r) => ⟨out, .finished r⟩

/-- Decompresses a stream, until there are `limit` bytes; what comes after the
stream is not looked at. -/
def inflate (limit : Nat) (bytes : Array UInt8) : Progress :=
  match streamHead ⟨bytes, 0⟩ with
  | .error fault => ⟨#[], .stopped fault⟩
  | .ok r =>
    match blocks limit (r.total + 1) #[] r with
    | ⟨out, .finished r⟩ => checksum out r
    | progress => progress

end TileEngine.Deflate
