import TileEngine.Bitmap.Basic

/-!
Single pixels. The raw accessors take a column and a row inside the bitmap;
above them stand the checked ones, which ignore every other position, and
`fill`, which writes whole rows where the encoding has whole bytes.
-/

namespace TileEngine

namespace Bitmap

/-- The bit of a byte that holds the pixel of a column. -/
def bitMask (x : Nat) : UInt8 := 0x80 >>> (x % 8).toUInt8

/-- The index stored at a column and a row; zero without indices. -/
def readIndex (b : Bitmap) (x y : Nat) : UInt8 :=
  match b.depth with
  | .mono1 => (b.pixels.getD (y * b.stride + x / 8) 0 >>> (7 - x % 8).toUInt8) &&& 1
  | .indexed8 => b.pixels.getD (y * b.stride + x) 0
  | .trueColor32 => 0

/-- Stores an index at a column and a row; one bit keeps its lowest bit. -/
def writeIndex (b : Bitmap) (x y : Nat) (index : UInt8) : Bitmap :=
  match b.depth with
  | .mono1 =>
    let at_ := y * b.stride + x / 8
    let mask := bitMask x
    let byte := b.pixels.getD at_ 0
    let byte := if index &&& 1 = 0 then byte &&& ~~~mask else byte ||| mask
    { b with pixels := b.pixels.setIfInBounds at_ byte }
  | .indexed8 => { b with pixels := b.pixels.setIfInBounds (y * b.stride + x) index }
  | .trueColor32 => b

/-- The colour stored at a column and a row of a true-colour bitmap. -/
def readTexel (b : Bitmap) (x y : Nat) : Color :=
  let at_ := y * b.stride + x * 4
  ⟨b.pixels.getD at_ 0, b.pixels.getD (at_ + 1) 0, b.pixels.getD (at_ + 2) 0⟩

/-- The four bytes of a true-colour pixel. -/
def texelBytes (c : Color) : List UInt8 := [c.red, c.green, c.blue, 0]

/-- Writes bytes one after the other from an address on. -/
def writeRun (buffer : Array UInt8) : Nat → List UInt8 → Array UInt8
  | _, [] => buffer
  | address, byte :: rest => writeRun (buffer.setIfInBounds address byte) (address + 1) rest

/-- The bytes from an address on. -/
def readRun (buffer : Array UInt8) (address length : Nat) : List UInt8 :=
  (List.range length).map fun i => buffer.getD (address + i) 0

/-- Stores a colour at a column and a row of a true-colour bitmap. -/
def writeTexel (b : Bitmap) (x y : Nat) (color : Color) : Bitmap :=
  { b with pixels := writeRun b.pixels (y * b.stride + x * 4) (texelBytes color) }

/-- Runs an update over every column and row of an extent, row by row. -/
def scan {α : Type} (size : Vec2) (update : Nat → Nat → α → α) (start : α) : α :=
  (List.range size.y.toNat).foldl
    (fun row y => (List.range size.x.toNat).foldl (fun state x => update x y state) row) start

/-- The palette index at a position, for indexed bitmaps. -/
def getIndex (b : Bitmap) (p : Vec2) : Option UInt8 :=
  if b.depth.isIndexed && p.inside b.size then some (b.readIndex p.x.toNat p.y.toNat) else none

/-- Stores a palette index; a position outside changes nothing. -/
def setIndex (b : Bitmap) (p : Vec2) (index : UInt8) : Except BitmapError Bitmap :=
  if !b.depth.isIndexed then .error (.notIndexed b.depth)
  else if p.inside b.size then .ok (b.writeIndex p.x.toNat p.y.toNat index)
  else .ok b

/-- The colour at a position; an index past the palette reads as black. -/
def colorAt (b : Bitmap) (p : Vec2) : Option Color :=
  if !p.inside b.size then none
  else match b.depth with
    | .trueColor32 => some (b.readTexel p.x.toNat p.y.toNat)
    | _ => some (b.effectivePalette.shown (b.readIndex p.x.toNat p.y.toNat).toNat)

/-- Stores a colour, or the nearest palette entry; a position outside changes
nothing. -/
def setColor (b : Bitmap) (p : Vec2) (color : Color) : Bitmap :=
  if !p.inside b.size then b
  else match b.depth with
    | .trueColor32 => b.writeTexel p.x.toNat p.y.toNat color
    | _ => b.writeIndex p.x.toNat p.y.toNat (b.effectivePalette.nearestIndex color)

/-- Writes the same bytes to the start of every row. -/
def fillRows (b : Bitmap) (row : List UInt8) : Bitmap :=
  { b with
    pixels := (List.range b.size.y.toNat).foldl
      (fun buffer y => writeRun buffer (y * b.stride) row) b.pixels }

/-- Gives every pixel one colour, or its nearest palette entry. -/
def fill (b : Bitmap) (color : Color) : Bitmap :=
  match b.depth with
  | .trueColor32 =>
    b.fillRows (List.replicate b.size.x.toNat (texelBytes color)).flatten
  | .indexed8 => b.fillRows (List.replicate b.size.x.toNat (b.palette.nearestIndex color))
  | .mono1 =>
    let index := b.effectivePalette.nearestIndex color
    scan b.size (fun x y out => out.writeIndex x y index) b

end Bitmap

end TileEngine
