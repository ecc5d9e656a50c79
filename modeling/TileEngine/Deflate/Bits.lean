/-!
Bits of a byte sequence, the lowest bit of each byte first. A value that cannot be
read tells whether the bytes ended before it or hold none.
-/

namespace TileEngine.Deflate

/-- Why a value cannot be read: the bytes end before it, or what they hold is no
such value. -/
inductive Fault where
  | short
  | damaged
  deriving DecidableEq, Repr

/-- A place in a byte sequence, counted in bits. -/
structure BitReader where
  bytes : Array UInt8
  position : Nat
  deriving DecidableEq, Repr

namespace BitReader

/-- The next bit. -/
def bit (r : BitReader) : Except Fault (Nat × BitReader) :=
  match (r.bytes[r.position / 8]? : Option UInt8) with
  | none => .error .short
  | some byte =>
    .ok ((byte.toNat >>> (r.position % 8)) % 2, { r with position := r.position + 1 })

/-- The number whose lowest bit comes first. -/
def bits : (count : Nat) → BitReader → Except Fault (Nat × BitReader)
  | 0, r => .ok (0, r)
  | count + 1, r => do
    let (low, r) ← r.bit
    let (high, r) ← bits count r
    return (low + 2 * high, r)

/-- Skips to the start of a byte. -/
def align (r : BitReader) : BitReader := { r with position := (r.position + 7) / 8 * 8 }

/-- The number of bits in all bytes. -/
def total (r : BitReader) : Nat := r.bytes.size * 8

/-- The number of bits that are left. -/
def left (r : BitReader) : Nat := r.total - r.position

end BitReader

end TileEngine.Deflate
