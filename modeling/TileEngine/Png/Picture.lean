import TileEngine.Bitmap.Rgba
import TileEngine.Deflate.Inflate
import TileEngine.Png.Preamble
import TileEngine.Png.Scanline

/-!
Decoding a whole PNG file into an image. Only the first run of image data is
read. What follows it needs no more than the head of one chunk. A stream of image
data that is cut short is good enough if it gives all rows.
-/

namespace TileEngine.Png

/-- Collects the data of consecutive image data chunks; the first argument
bounds their number. The head of another chunk has to follow. -/
def collectData (file : Array UInt8) : Nat → (address : Nat) → Array UInt8 →
    Option (Array UInt8)
  | 0, _, _ => none
  | steps + 1, address, data => do
    let chunk ← chunkHead? file address
    if chunk.type != dataType then return data
    if (← chunk.intact? file) != true then none
    collectData file steps chunk.next (data ++ chunk.data file)

/-- One of the reduced images that an interlaced file consists of: its first
column and row, and the distance to the next. -/
structure Pass where
  x : Nat
  y : Nat
  dx : Nat
  dy : Nat
  deriving DecidableEq, Repr

/-- The reduced images of an interlaced file in their order. -/
def interlacedPasses : List Pass :=
  [⟨0, 0, 8, 8⟩, ⟨4, 0, 8, 8⟩, ⟨0, 4, 4, 8⟩, ⟨2, 0, 4, 4⟩, ⟨0, 2, 2, 4⟩, ⟨1, 0, 2, 2⟩,
    ⟨0, 1, 1, 2⟩]

/-- The passes of a file. -/
def Header.passes (h : Header) : List Pass :=
  if h.interlaced then interlacedPasses else [⟨0, 0, 1, 1⟩]

/-- How many of a number of places a pass visits, from a first one on. -/
def visited (size first distance : Nat) : Nat :=
  if size ≤ first then 0 else (size - first + distance - 1) / distance

/-- The colour of a palette entry; entries that are not there are black. -/
def paletteColor (palette : Array UInt8) (index : Nat) : Color :=
  if 3 * index + 2 < palette.size then
    ⟨palette.getD (3 * index) 0, palette.getD (3 * index + 1) 0, palette.getD (3 * index + 2) 0⟩
  else .black

/-- The colour of the pixel of a number in a row. Opacity is left out. -/
def pixelColor (p : Preamble) (row : Array UInt8) (i : Nat) : Color :=
  let depth := p.header.depth
  let channels := p.header.color.channels
  let byte (k : Nat) : UInt8 := sampleByte depth (sample depth row (i * channels + k))
  match p.header.color with
  | .gray | .grayAlpha => ⟨byte 0, byte 0, byte 0⟩
  | .rgb | .rgba => ⟨byte 0, byte 1, byte 2⟩
  | .indexed => paletteColor (p.palette.getD #[]) (sample depth row i)

/-- Writes one row of a pass into the image. -/
def writeRow (p : Preamble) (pass : Pass) (width y : Nat) (row : Array UInt8)
    (image : RgbaImage) : RgbaImage :=
  (List.range width).foldl
    (fun image i =>
      image.set (pass.x + i * pass.dx) y (Rgba.opaqueOf (pixelColor p row i))) image

/-- Reads a number of rows of a pass from an address on and writes them into the
image from row `y` on. The row above the first one counts as zero. -/
def readRows (p : Preamble) (pass : Pass) (width : Nat) (data : Array UInt8) :
    (count address y : Nat) → (previous : Array UInt8) → RgbaImage → Option (RgbaImage × Nat)
  | 0, address, _, _, image => some (image, address)
  | count + 1, address, y, previous, image => do
    let rowBytes := p.header.rowBytes width
    let row ← row? data p.header.step rowBytes address previous
    readRows p pass width data count (address + 1 + rowBytes) (y + pass.dy) row
      (writeRow p pass width y row image)

/-- Reads all passes from an address on. -/
def readPasses (p : Preamble) (data : Array UInt8) : List Pass → (address : Nat) →
    RgbaImage → Option RgbaImage
  | [], _, image => some image
  | pass :: rest, address, image => do
    let width := visited p.header.width pass.x pass.dx
    let height := visited p.header.height pass.y pass.dy
    if width = 0 || height = 0 then readPasses p data rest address image
    else
      let (image, address) ← readRows p pass width data height address pass.y #[] image
      readPasses p data rest address image

/-- The number of bytes that the rows of all passes take. -/
def expectedBytes (h : Header) : Nat :=
  h.passes.foldr (fun pass total =>
    let width := visited h.width pass.x pass.dx
    let height := visited h.height pass.y pass.dy
    (if width = 0 then 0 else height * (1 + h.rowBytes width)) + total) 0

/-- The number of bytes that a stream has to give which is cut short. Here the rows
of a pass that visits no column count with the byte of their filter. -/
def announcedBytes (h : Header) : Nat :=
  h.passes.foldr (fun pass total =>
    let width := visited h.width pass.x pass.dx
    let height := visited h.height pass.y pass.dy
    height * (1 + h.rowBytes width) + total) 0

/-- How far back compressed data may refer. A row is taken when so many bytes were
decompressed behind it, or at the end. -/
def windowBytes : Nat := 0x8000

/-- Data is decompressed in portions of so many bytes. -/
def portionBytes : Nat := 0x2000

/-- How many bytes are decompressed at most: whole portions, until all rows can be
taken. -/
def decompressedLimit (h : Header) : Nat :=
  (expectedBytes h + windowBytes + portionBytes - 1) / portionBytes * portionBytes

/-- Whether decompressed data can be used for an image. -/
def isUsable (h : Header) (data : Deflate.Progress) : Bool :=
  expectedBytes h ≤ data.out.size &&
    match data.ending with
    | .finished _ | .full => true
    | .stopped .short => announcedBytes h ≤ data.out.size
    | .stopped .damaged => false

/-- Decodes a file; none when it is damaged. -/
def decode? (file : Array UInt8) : Option RgbaImage := do
  if (file.extract 0 8).toList != signature then none
  let (p, start) ← readPreamble file 8
  let packed ← collectData file file.size start #[]
  let data := Deflate.inflate (decompressedLimit p.header) packed
  if !isUsable p.header data then none
  readPasses p data.out p.header.passes 0
    (RgbaImage.ofPixel p.header.width p.header.height (Rgba.opaqueOf .black))

end TileEngine.Png
