/-!
Reading UTF-8. A character is decoded from the front of a list of bytes; where
the bytes are malformed, the longest run of them that could have begun a
character is passed over as one.
-/

namespace TileEngine.Text

/-- What the first byte of a character announces: how many bytes follow, the
range of the first of them, and the value bits of the byte itself. -/
structure Lead where
  count : Nat
  low : UInt8
  high : UInt8
  bits : Nat
  deriving DecidableEq, Repr

/-- The announcement of a first byte; none for a byte that starts nothing. -/
def lead? (b : UInt8) : Option Lead :=
  if b < 0x80 then some ⟨0, 0x80, 0xBF, b.toNat⟩
  else if b < 0xC2 then none
  else if b < 0xE0 then some ⟨1, 0x80, 0xBF, b.toNat - 0xC0⟩
  else if b = 0xE0 then some ⟨2, 0xA0, 0xBF, 0⟩
  else if b = 0xED then some ⟨2, 0x80, 0x9F, 0xD⟩
  else if b < 0xF0 then some ⟨2, 0x80, 0xBF, b.toNat - 0xE0⟩
  else if b = 0xF0 then some ⟨3, 0x90, 0xBF, 0⟩
  else if b < 0xF4 then some ⟨3, 0x80, 0xBF, b.toNat - 0xF0⟩
  else if b = 0xF4 then some ⟨3, 0x80, 0x8F, 4⟩
  else none

/-- Reads following bytes into a value, as long as they are in range. -/
def readTail : (count : Nat) → (low high : UInt8) → (value : Nat) → List UInt8 →
    Option Nat × List UInt8
  | 0, _, _, value, rest => (some value, rest)
  | _ + 1, _, _, _, [] => (none, [])
  | count + 1, low, high, value, b :: rest =>
    if low ≤ b && b ≤ high then
      readTail count 0x80 0xBF (value * 64 + (b.toNat - 0x80)) rest
    else (none, b :: rest)

/-- Takes one character off the front, or one malformed run. -/
def decodeChar (first : UInt8) (rest : List UInt8) : Option Char × List UInt8 :=
  match lead? first with
  | none => (none, rest)
  | some l =>
    let (value, rest) := readTail l.count l.low l.high l.bits rest
    (value.map Char.ofNat, rest)

/-- All characters, a malformed run being none; the first argument bounds the
number of steps. -/
def decodeSteps : Nat → List UInt8 → List (Option Char)
  | 0, _ => []
  | _, [] => []
  | steps + 1, first :: rest =>
    let (c, rest) := decodeChar first rest
    c :: decodeSteps steps rest

/-- All characters of a list of bytes; each takes at least one byte. -/
def decode (bytes : List UInt8) : List (Option Char) := decodeSteps bytes.length bytes

/-- The text of bytes, with the replacement character for every malformed run. -/
def decodeLossy (bytes : List UInt8) : String :=
  String.ofList ((decode bytes).map (·.getD '\uFFFD'))

/-- The text of well-formed bytes. -/
def decode? (bytes : List UInt8) : Option String :=
  ((decode bytes).mapM id).map String.ofList

/-- The bytes of a text. -/
def encode (s : String) : List UInt8 := s.toUTF8.toList

end TileEngine.Text
