import TileEngine.Bitmap.Conversion

/-!
Rectangular copies between bitmaps. Where depths and palettes agree, rows are
copied as bytes; a true-colour destination takes the source converted to true
colour; every other indexed destination is widened to true colour, written
there and converted back. A blit therefore never needs more than one detour.
-/

namespace TileEngine

/-- One row of a raw copy: a run of whole bytes, and a mask of the leading bits
of the byte after it that are copied too. -/
structure Span where
  source : Nat
  target : Nat
  length : Nat
  tail : UInt8
  deriving DecidableEq, Repr

namespace Span

/-- Copies one span from a buffer into another. -/
def copy (source target : Array UInt8) (s : Span) : Array UInt8 :=
  let out := Bitmap.writeRun target s.target (Bitmap.readRun source s.source s.length)
  if s.tail = 0 then out
  else
    let last := out.getD (s.target + s.length) 0 &&& ~~~s.tail
    let more := source.getD (s.source + s.length) 0 &&& s.tail
    out.setIfInBounds (s.target + s.length) (last ||| more)

/-- The mask of the bits that a row of single-bit pixels leaves over. -/
def tailMask (width : Nat) : UInt8 :=
  if width % 8 = 0 then 0 else 0xFF <<< (8 - width % 8).toUInt8

/-- The span of one row of a clipped rectangle. -/
def ofRow (depth : Depth) (sourceStride targetStride : Nat) (r : Rect) (p : Vec2)
    (row : Nat) : Span :=
  let source := (r.origin.y.toNat + row) * sourceStride
  let target := (p.y.toNat + row) * targetStride
  let width := r.size.x.toNat
  match depth with
  | .mono1 =>
    ⟨source + r.origin.x.toNat / 8, target + p.x.toNat / 8, width / 8, tailMask width⟩
  | .indexed8 => ⟨source + r.origin.x.toNat, target + p.x.toNat, width, 0⟩
  | .trueColor32 => ⟨source + r.origin.x.toNat * 4, target + p.x.toNat * 4, width * 4, 0⟩

end Span

namespace Bitmap

/-- Whether raw bytes may be copied: the palettes agree, and single-bit pixels
are aligned to bytes in both bitmaps, or would be if both rows were widened to
whole bytes without leaving either bitmap. -/
def canFastCopy (dst src : Bitmap) (r : Rect) (p : Vec2) : Bool :=
  dst.palette.same src.palette &&
    (dst.depth != .mono1 ||
      (r.origin.x.toNat % 8 == 0 && p.x.toNat % 8 == 0 &&
        (r.size.x.toNat % 8 == 0 ||
          (let widened := (r.size.x.toNat + 7) / 8 * 8
           r.origin.x.toNat + widened ≤ src.size.x.toNat &&
             p.x.toNat + widened ≤ dst.size.x.toNat))))

/-- The spans of a clipped rectangle, the bottom row first. -/
def rowSpans (dst src : Bitmap) (r : Rect) (p : Vec2) : List Span :=
  (List.range r.size.y.toNat).reverse.map
    (Span.ofRow dst.depth src.stride dst.stride r p)

/-- Copies the rows of a clipped rectangle between bitmaps of one depth. -/
def copyRows (dst src : Bitmap) (r : Rect) (p : Vec2) : Bitmap :=
  { dst with pixels := (dst.rowSpans src r p).foldl (Span.copy src.pixels) dst.pixels }

/-- Writes a clipped rectangle onto a true-colour bitmap. -/
def overlay (dst src : Bitmap) (r : Rect) (p : Vec2) : Bitmap :=
  if src.depth = .trueColor32 then dst.copyRows src r p
  else dst.copyRows (src.convertInto .trueColor32 dst.palette) r p

/-- Writes a clipped rectangle onto an indexed bitmap by way of true colour. -/
def overlayStaged (dst src : Bitmap) (r : Rect) (p : Vec2) : Bitmap :=
  let staging := (dst.convertInto .trueColor32 dst.palette).overlay src r p
  { dst with pixels := (staging.convertInto dst.depth dst.palette).pixels }

/-- Writes a clipped rectangle of a bitmap of the same depth. -/
def overlaySameDepth (dst src : Bitmap) (r : Rect) (p : Vec2) : Bitmap :=
  if dst.depth = .trueColor32 || dst.canFastCopy src r p then dst.copyRows src r p
  else dst.overlayStaged src r p

/-- A rectangle, cut to the bitmap, as a bitmap of the same depth and palette. -/
def cloneRegion (b : Bitmap) (r : Rect) : Bitmap :=
  let r := r.clampedTo b.size
  let out := blank r.size b.depth b.palette
  match Rect.clip b.size out.size r Vec2.zero with
  | none => out
  | some r => out.overlaySameDepth b r Vec2.zero

/-- The source of a copy into another indexed depth with an agreeing palette:
all of it, or only the rectangle. -/
def recoded (dst src : Bitmap) (r : Rect) : Bitmap × Rect :=
  if r = src.bounds then (src.convertInto dst.depth dst.palette, r)
  else
    let region := (src.cloneRegion r).convertInto dst.depth dst.palette
    (region, region.bounds)

/-- Copies a rectangle of one bitmap to a position of another. The rectangle is
cut to both; nothing happens when no pixel is left. -/
def blit (dst src : Bitmap) (r : Rect) (p : Vec2) : Bitmap :=
  match Rect.clip src.size dst.size r p with
  | none => dst
  | some r =>
    if dst.depth = .trueColor32 then dst.overlay src r p
    else if !dst.canFastCopy src r p then dst.overlayStaged src r p
    else if src.depth = dst.depth then dst.copyRows src r p
    else
      let (source, r) := dst.recoded src r
      dst.overlaySameDepth source r p

/-- The rows of a move inside one buffer, in an order in which no row is
overwritten before it is read. -/
def moveSpans (b : Bitmap) (r : Rect) (p : Vec2) : List Span :=
  let rows := List.range r.size.y.toNat
  let rows := if p.y > r.origin.y then rows.reverse else rows
  rows.map (Span.ofRow b.depth b.stride b.stride r p)

/-- Copies a rectangle of a bitmap to another place in it, as if the rectangle
had been taken out first. -/
def blitWithin (b : Bitmap) (r : Rect) (p : Vec2) : Bitmap :=
  match Rect.clip b.size b.size r p with
  | none => b
  | some r =>
    if b.depth = .mono1 then
      let region := b.cloneRegion r
      b.blit region region.bounds p
    else
      { b with
        pixels := (b.moveSpans r p).foldl (fun buffer s => Span.copy buffer buffer s) b.pixels }

end Bitmap

end TileEngine
