import TileEngine.Png.Header

/-!
Rows of image data. Each row starts with the number of its filter, which says
from which neighbours a byte was predicted; undoing it gives the samples back.
-/

namespace TileEngine.Png

/-- Of left, above and upper left the one that is nearest to left + above - upper
left; earlier ones win ties. -/
def predictor (left above corner : UInt8) : UInt8 :=
  let a : Int := left.toNat
  let b : Int := above.toNat
  let c : Int := corner.toNat
  let p := a + b - c
  let da := (p - a).natAbs
  let db := (p - b).natAbs
  let dc := (p - c).natAbs
  if da ≤ db && da ≤ dc then left else if db ≤ dc then above else corner

/-- The value that a filter predicts; none for an unknown filter. -/
def predicted? (filter : UInt8) (left above corner : UInt8) : Option UInt8 :=
  if filter = 0 then some 0
  else if filter = 1 then some left
  else if filter = 2 then some above
  else if filter = 3 then some ((left.toNat + above.toNat) / 2).toUInt8
  else if filter = 4 then some (predictor left above corner)
  else none

/-- Undoes the filter of a row, byte after byte. -/
def unfilterFrom (filter : UInt8) (step : Nat) (previous : Array UInt8) :
    List UInt8 → Array UInt8 → Option (Array UInt8)
  | [], done => some done
  | raw :: rest, done => do
    let i := done.size
    let left := if i < step then 0 else done.getD (i - step) 0
    let corner := if i < step then 0 else previous.getD (i - step) 0
    let value ← predicted? filter left (previous.getD i 0) corner
    unfilterFrom filter step previous rest (done.push (raw + value))

/-- Reads the row at an address, given the row above it. -/
def row? (data : Array UInt8) (step rowBytes address : Nat) (previous : Array UInt8) :
    Option (Array UInt8) := do
  let filter ← data[address]?
  if address + 1 + rowBytes > data.size then none
  let raw := (data.extract (address + 1) (address + 1 + rowBytes)).toList
  unfilterFrom filter step previous raw #[]

/-- The sample of a number in a row, by its bits. -/
def sample (depth : Nat) (row : Array UInt8) (i : Nat) : Nat :=
  if depth = 16 then (row.getD (2 * i) 0).toNat * 256 + (row.getD (2 * i + 1) 0).toNat
  else if depth = 8 then (row.getD i 0).toNat
  else
    let bit := i * depth
    ((row.getD (bit / 8) 0).toNat >>> (8 - depth - bit % 8)) % (1 <<< depth)

/-- A sample as a byte: fewer bits are stretched over the range, sixteen are
rounded. -/
def sampleByte (depth value : Nat) : UInt8 :=
  if depth = 16 then ((value + 128) / 257).toUInt8
  else (value * (255 / (1 <<< depth - 1))).toUInt8

end TileEngine.Png
