import TileEngine.Proofs.Bitmap.PerPixel

/-!
Blits that insist on their ranges. The accessors of bitmaps read zero past the end of a buffer and
write nothing there, so a copy that missed its buffer would go unnoticed. Here every access is
guarded: an address or a slice outside its buffer, a copy between slices of different lengths, and
a coordinate that is no word each stop the run with a `Fault`. For each accessor, conversion and
copy of rows there is one lemma: on a well-formed bitmap, and inside of it, the guarded form is
not stopped and gives what the plain one gives.
-/

namespace TileEngine

/-- What stops a guarded run. -/
inductive Fault where
  /-- An address past the end of its buffer. -/
  | address (address size : Nat)
  /-- A slice that reaches past the end of its buffer. -/
  | slice (first length size : Nat)
  /-- A copy between slices of different lengths. -/
  | lengths (target source : Nat)
  /-- A coordinate that is no 16-bit word. -/
  | coordinate (sum : Nat)
  /-- More blits inside each other than are allowed. -/
  | nested
  deriving DecidableEq, Repr

namespace Guarded

/-! ## Buffers -/

/-- The byte at an address. -/
def fetch (buffer : Array UInt8) (address : Nat) : Except Fault UInt8 :=
  if h : address < buffer.size then .ok buffer[address] else .error (.address address buffer.size)

/-- Writes the byte at an address. -/
def store (buffer : Array UInt8) (address : Nat) (byte : UInt8) : Except Fault (Array UInt8) :=
  if h : address < buffer.size then .ok (buffer.set address byte)
  else .error (.address address buffer.size)

/-- The bytes of a slice. -/
def slice (buffer : Array UInt8) (first length : Nat) : Except Fault (List UInt8) :=
  if first + length ≤ buffer.size then .ok (Bitmap.readRun buffer first length)
  else .error (.slice first length buffer.size)

/-- Writes a slice of a buffer; there are as many bytes to write as it has. -/
def copySlice (buffer : Array UInt8) (first length : Nat) (bytes : List UInt8) :
    Except Fault (Array UInt8) :=
  if first + length ≤ buffer.size then
    if bytes.length = length then .ok (Bitmap.writeRun buffer first bytes)
    else .error (.lengths length bytes.length)
  else .error (.slice first length buffer.size)

section

variable {buffer : Array UInt8} {address first length : Nat} {bytes : List UInt8}

theorem fetch_eq (inside : address < buffer.size) :
    fetch buffer address = .ok (buffer.getD address 0) := by
  simp [fetch, inside]

theorem store_eq (inside : address < buffer.size) (byte : UInt8) :
    store buffer address byte = .ok (buffer.setIfInBounds address byte) := by
  simp [store, Array.setIfInBounds, inside]

theorem slice_eq (inside : first + length ≤ buffer.size) :
    slice buffer first length = .ok (Bitmap.readRun buffer first length) :=
  if_pos inside

theorem copySlice_eq (inside : first + length ≤ buffer.size) (same : bytes.length = length) :
    copySlice buffer first length bytes = .ok (Bitmap.writeRun buffer first bytes) := by
  rw [copySlice, if_pos inside, if_pos same]

end

/-! ## Scans -/

/-- A fold whose steps may stop. While an invariant holds they do not, and are the steps of a
plain fold that keep the invariant. -/
theorem foldlM_eq_foldl {α ι : Type} {f : α → ι → Except Fault α} {g : α → ι → α} (inv : α → Prop)
    {items : List ι} (goes : ∀ i ∈ items, ∀ s, inv s → f s i = .ok (g s i))
    (keep : ∀ i ∈ items, ∀ s, inv s → inv (g s i)) {start : α} (holds : inv start) :
    items.foldlM f start = .ok (items.foldl g start) := by
  induction items generalizing start with
  | nil => rfl
  | cons head tail ih =>
    rw [List.foldlM_cons, goes head (by simp) start holds]
    exact ih (fun i hi => goes i (by simp [hi])) (fun i hi => keep i (by simp [hi]))
      (keep head (by simp) start holds)

/-- Runs an update that may stop over every column and row of an extent, row by row. -/
def scan {α : Type} (size : Vec2) (update : Nat → Nat → α → Except Fault α) (start : α) :
    Except Fault α :=
  (List.range size.y.toNat).foldlM
    (fun row y => (List.range size.x.toNat).foldlM (fun state x => update x y state) row) start

theorem scan_eq {α : Type} {size : Vec2} {f : Nat → Nat → α → Except Fault α}
    {g : Nat → Nat → α → α} (inv : α → Prop)
    (goes : ∀ x < size.x.toNat, ∀ y < size.y.toNat, ∀ s, inv s → f x y s = .ok (g x y s))
    (keep : ∀ x < size.x.toNat, ∀ y < size.y.toNat, ∀ s, inv s → inv (g x y s)) {start : α}
    (holds : inv start) : scan size f start = .ok (Bitmap.scan size g start) := by
  apply foldlM_eq_foldl inv
  · intro y hy s hs
    apply foldlM_eq_foldl inv
    · exact fun x hx => goes x (List.mem_range.mp hx) y (List.mem_range.mp hy)
    · exact fun x hx => keep x (List.mem_range.mp hx) y (List.mem_range.mp hy)
    · exact hs
  · intro y hy s hs
    exact List.foldlRecOn _ _ hs fun s hs x hx =>
      keep x (List.mem_range.mp hx) y (List.mem_range.mp hy) s hs
  · exact holds

/-! ## Single pixels -/

/-- The index stored at a column and a row; zero without indices. -/
def readIndex (b : Bitmap) (x y : Nat) : Except Fault UInt8 :=
  match b.depth with
  | .mono1 => do
    let byte ← fetch b.pixels (y * b.stride + x / 8)
    return (byte >>> (7 - x % 8).toUInt8) &&& 1
  | .indexed8 => fetch b.pixels (y * b.stride + x)
  | .trueColor32 => return 0

/-- Stores an index at a column and a row; one bit keeps its lowest bit. -/
def writeIndex (b : Bitmap) (x y : Nat) (index : UInt8) : Except Fault Bitmap :=
  match b.depth with
  | .mono1 => do
    let byte ← fetch b.pixels (y * b.stride + x / 8)
    let byte := if index &&& 1 = 0 then byte &&& ~~~Bitmap.bitMask x else byte ||| Bitmap.bitMask x
    let pixels ← store b.pixels (y * b.stride + x / 8) byte
    return { b with pixels := pixels }
  | .indexed8 => do
    let pixels ← store b.pixels (y * b.stride + x) index
    return { b with pixels := pixels }
  | .trueColor32 => return b

/-- The colour stored at a column and a row of a true-colour bitmap. -/
def readTexel (b : Bitmap) (x y : Nat) : Except Fault Color := do
  let bytes ← slice b.pixels (y * b.stride + x * 4) 4
  return ⟨bytes.getD 0 0, bytes.getD 1 0, bytes.getD 2 0⟩

/-- Stores a colour at a column and a row of a true-colour bitmap. -/
def writeTexel (b : Bitmap) (x y : Nat) (color : Color) : Except Fault Bitmap := do
  let pixels ← copySlice b.pixels (y * b.stride + x * 4) 4 (Bitmap.texelBytes color)
  return { b with pixels := pixels }

/-- The colour at a position; an index past the palette reads as black. -/
def colorAt (b : Bitmap) (p : Vec2) : Except Fault (Option Color) :=
  if !p.inside b.size then return none
  else match b.depth with
    | .trueColor32 => do
      let color ← readTexel b p.x.toNat p.y.toNat
      return some color
    | _ => do
      let index ← readIndex b p.x.toNat p.y.toNat
      return some (b.effectivePalette.shown index.toNat)

/-- Stores a colour, or the nearest palette entry; a position outside changes nothing. -/
def setColor (b : Bitmap) (p : Vec2) (color : Color) : Except Fault Bitmap :=
  if !p.inside b.size then return b
  else match b.depth with
    | .trueColor32 => writeTexel b p.x.toNat p.y.toNat color
    | _ => writeIndex b p.x.toNat p.y.toNat (b.effectivePalette.nearestIndex color)

section

variable {b : Bitmap} {x y : Nat} (wf : b.WellFormed) (hx : x < b.size.x.toNat)
  (hy : y < b.size.y.toNat)

include wf hx hy

theorem readIndex_eq : readIndex b x y = .ok (b.readIndex x y) := by
  unfold readIndex Bitmap.readIndex
  cases depth : b.depth with
  | mono1 => rw [fetch_eq (address_lt hy (Bitmap.column_lt_stride_mono1 depth hx) wf.bytes)]; rfl
  | indexed8 => exact fetch_eq (address_lt hy (Bitmap.column_lt_stride_indexed8 depth hx) wf.bytes)
  | trueColor32 => rfl

theorem writeIndex_eq (index : UInt8) : writeIndex b x y index = .ok (b.writeIndex x y index) := by
  unfold writeIndex Bitmap.writeIndex
  cases depth : b.depth with
  | mono1 =>
    have inside := address_lt hy (Bitmap.column_lt_stride_mono1 depth hx) wf.bytes
    rw [fetch_eq inside]
    simp only [bind, Except.bind, store_eq inside]
    rfl
  | indexed8 =>
    rw [store_eq (address_lt hy (Bitmap.column_lt_stride_indexed8 depth hx) wf.bytes)]
    rfl
  | trueColor32 => rfl

/-- The four bytes of a true-colour pixel are in the buffer. -/
theorem texel_inside (depth : b.depth = .trueColor32) :
    y * b.stride + x * 4 + 4 ≤ b.pixels.size := by
  have column := Bitmap.column_le_stride_trueColor32 depth hx
  have := address_lt hy (show x * 4 + 3 < b.stride by omega) wf.bytes
  omega

theorem readTexel_eq (depth : b.depth = .trueColor32) :
    readTexel b x y = .ok (b.readTexel x y) := by
  rw [readTexel, slice_eq (texel_inside wf hx hy depth)]
  rfl

theorem writeTexel_eq (depth : b.depth = .trueColor32) (color : Color) :
    writeTexel b x y color = .ok (b.writeTexel x y color) := by
  rw [writeTexel, copySlice_eq (texel_inside wf hx hy depth) rfl]
  rfl

end

theorem colorAt_eq {b : Bitmap} (wf : b.WellFormed) (p : Vec2) :
    colorAt b p = .ok (b.colorAt p) := by
  unfold colorAt Bitmap.colorAt
  by_cases inside : p.inside b.size = true
  · obtain ⟨hx, hy⟩ := Vec2.inside_iff.mp inside
    simp only [inside, Bool.not_true, Bool.false_eq_true, if_false]
    cases depth : b.depth with
    | trueColor32 => simp only [readTexel_eq wf hx hy depth]; rfl
    | mono1 => simp only [readIndex_eq wf hx hy]; rfl
    | indexed8 => simp only [readIndex_eq wf hx hy]; rfl
  · simp only [inside, Bool.not_false, if_true]
    rfl

theorem setColor_eq {b : Bitmap} (wf : b.WellFormed) (p : Vec2) (color : Color) :
    setColor b p color = .ok (b.setColor p color) := by
  unfold setColor Bitmap.setColor
  by_cases inside : p.inside b.size = true
  · obtain ⟨hx, hy⟩ := Vec2.inside_iff.mp inside
    simp only [inside, Bool.not_true, Bool.false_eq_true, if_false]
    cases depth : b.depth with
    | trueColor32 => exact writeTexel_eq wf hx hy depth color
    | mono1 => exact writeIndex_eq wf hx hy _
    | indexed8 => exact writeIndex_eq wf hx hy _
  · simp only [inside, Bool.not_false, if_true]
    rfl

/-! ## Conversions -/

/-- One pixel on the way out of true colour, with the entries that were found so far. -/
def quantize (b : Bitmap) (target : Palette) (x y : Nat) :
    Bitmap × List (Color × UInt8) → Except Fault (Bitmap × List (Color × UInt8))
  | (out, found) => do
    let color ← readTexel b x y
    match found.lookup color with
    | some index =>
      let out ← writeIndex out x y index
      return (out, found)
    | none =>
      let index := target.nearestIndex color
      let out ← writeIndex out x y index
      return (out, (color, index) :: found)

/-- The bitmap in another encoding. -/
def convertInto (b : Bitmap) (depth : Depth) (palette : Palette) : Except Fault Bitmap :=
  let out := Bitmap.blank b.size depth palette
  match b.depth.isIndexed, depth.isIndexed with
  | true, true =>
    let table := b.effectivePalette.remapTable out.effectivePalette
    scan b.size
      (fun x y out => do
        let stored ← readIndex b x y
        let index ← fetch table stored.toNat
        writeIndex out x y index) out
  | true, false =>
    let source := b.effectivePalette
    scan b.size
      (fun x y out => do
        let stored ← readIndex b x y
        writeTexel out x y (source.shown stored.toNat)) out
  | false, true => do
    let (out, _) ← scan b.size (quantize b out.effectivePalette) (out, [])
    return out
  | false, false => do
    let bytes ← slice b.pixels 0 b.pixels.size
    let pixels ← copySlice out.pixels 0 out.pixels.size bytes
    return { out with pixels := pixels }

section

variable {b : Bitmap} {depth : Depth} {palette : Palette}

/-- A buffer that is written as a whole. -/
theorem writeRun_readRun {target source : Array UInt8} (same : target.size = source.size) :
    Bitmap.writeRun target 0 (Bitmap.readRun source 0 source.size) = source := by
  apply Array.ext
  · rw [Bitmap.size_writeRun, same]
  · intro i here inside
    have byte := Bitmap.getD_writeRun target 0 (Bitmap.readRun source 0 source.size) i
    rw [Bitmap.length_readRun, if_pos (by omega), Nat.sub_zero, Bitmap.getD_readRun _ inside,
      Nat.zero_add] at byte
    simp only [Array.getD, here, inside, dif_pos] at byte
    exact byte

theorem quantize_eq {out : Bitmap} (wf : b.WellFormed) (wide : b.depth = .trueColor32)
    (out_wf : out.WellFormed) (size : out.size = b.size) {x y : Nat} (hx : x < b.size.x.toNat)
    (hy : y < b.size.y.toNat) (target : Palette) (found : List (Color × UInt8)) :
    quantize b target x y (out, found) = .ok (b.quantize target x y (out, found)) := by
  unfold quantize Bitmap.quantize
  dsimp only
  rw [readTexel_eq wf hx hy wide]
  simp only [bind, Except.bind, writeIndex_eq out_wf (size ▸ hx) (size ▸ hy)]
  cases found.lookup (b.readTexel x y) with
  | none => rfl
  | some index => rfl

/-- No access of a conversion is out of range, and a buffer that is taken over has the length of
the new one. -/
theorem convertInto_eq (wf : b.WellFormed) (fits : palette.len ≤ depth.maxPalette) :
    convertInto b depth palette = .ok (b.convertInto depth palette) := by
  have blank_wf := Bitmap.wellFormed_blank b.size fits
  have written {s : Bitmap} (hs : Bitmap.SameShape s (Bitmap.blank b.size depth palette)) :
      s.WellFormed ∧ s.size = b.size := ⟨hs.wellFormed blank_wf, hs.size⟩
  unfold convertInto Bitmap.convertInto
  cases source : b.depth.isIndexed <;> cases target : depth.isIndexed <;> dsimp only
  · have wide := Bitmap.isIndexed_eq_false_iff.mp source
    have same : (Bitmap.blank b.size depth palette).pixels.size = b.pixels.size := by
      rw [blank_wf.bytes, wf.bytes, Bitmap.stride, Bitmap.stride, wide,
        show (Bitmap.blank b.size depth palette).depth = .trueColor32 from
          Bitmap.isIndexed_eq_false_iff.mp target]
      rfl
    rw [slice_eq (by omega)]
    simp only [bind, Except.bind]
    rw [copySlice_eq (by omega) (by rw [Bitmap.length_readRun, same]), writeRun_readRun same]
    rfl
  · have wide := Bitmap.isIndexed_eq_false_iff.mp source
    have run : scan b.size (quantize b (Bitmap.blank b.size depth palette).effectivePalette)
        (Bitmap.blank b.size depth palette, []) = .ok (Bitmap.scan b.size
          (b.quantize (Bitmap.blank b.size depth palette).effectivePalette)
          (Bitmap.blank b.size depth palette, [])) := by
      refine scan_eq (fun s => Bitmap.SameShape s.1 (Bitmap.blank b.size depth palette)) ?_ ?_
        (Bitmap.SameShape.refl _)
      · exact fun x hx y hy s hs => quantize_eq wf wide (written hs).1 (written hs).2 hx hy _ s.2
      · intro x _ y _ s hs
        unfold Bitmap.quantize
        dsimp only
        split <;> exact (Bitmap.sameShape_writeIndex _ _ _ _).trans hs
    rw [run]
    rfl
  · refine scan_eq (Bitmap.SameShape · (Bitmap.blank b.size depth palette)) ?_ ?_
      (Bitmap.SameShape.refl _)
    · intro x hx y hy s hs
      rw [readIndex_eq wf hx hy]
      exact writeTexel_eq (written hs).1 ((written hs).2 ▸ hx) ((written hs).2 ▸ hy)
        (hs.depth.trans (Bitmap.isIndexed_eq_false_iff.mp target)) _
    · exact fun x _ y _ s hs => (Bitmap.sameShape_writeTexel s x y _).trans hs
  · refine scan_eq (Bitmap.SameShape · (Bitmap.blank b.size depth palette)) ?_ ?_
      (Bitmap.SameShape.refl _)
    · intro x hx y hy s hs
      have entry := (b.readIndex x y).toNat_lt
      rw [readIndex_eq wf hx hy]
      simp only [bind, Except.bind]
      rw [fetch_eq (by simpa [Palette.remapTable] using entry)]
      exact writeIndex_eq (written hs).1 ((written hs).2 ▸ hx) ((written hs).2 ▸ hy) _
    · exact fun x _ y _ s hs => (Bitmap.sameShape_writeIndex s x y _).trans hs

end

/-! ## Rows -/

/-- Copies one span from a buffer into another. -/
def copySpan (source target : Array UInt8) (s : Span) : Except Fault (Array UInt8) := do
  let run ← slice source s.source s.length
  let out ← copySlice target s.target s.length run
  if s.tail = 0 then return out
  else
    let last ← fetch out (s.target + s.length)
    let more ← fetch source (s.source + s.length)
    store out (s.target + s.length) (last &&& ~~~s.tail ||| more &&& s.tail)

/-- Copies the rows of a clipped rectangle between bitmaps of one depth. -/
def copyRows (dst src : Bitmap) (r : Rect) (p : Vec2) : Except Fault Bitmap := do
  let pixels ← (dst.rowSpans src r p).foldlM (copySpan src.pixels) dst.pixels
  return { dst with pixels := pixels }

/-- Copies the rows of a clipped rectangle in place. -/
def moveRows (b : Bitmap) (r : Rect) (p : Vec2) : Except Fault Bitmap := do
  let pixels ← (b.moveSpans r p).foldlM (fun buffer s => copySpan buffer buffer s) b.pixels
  return { b with pixels := pixels }

/-- The bytes of a span that starts at an address, with the one under its mask, are in a buffer. -/
def Reaches (s : Span) (start size : Nat) : Prop :=
  start + s.length + (if s.tail = 0 then 0 else 1) ≤ size

theorem copySpan_eq {source target : Array UInt8} {s : Span}
    (read : Reaches s s.source source.size) (written : Reaches s s.target target.size) :
    copySpan source target s = .ok (Span.copy source target s) := by
  unfold Reaches at read written
  unfold copySpan Span.copy
  rw [slice_eq (by omega)]
  simp only [bind, Except.bind]
  rw [copySlice_eq (by omega) (Bitmap.length_readRun _ _ _)]
  dsimp only
  by_cases whole : s.tail = 0
  · rw [if_pos whole, if_pos whole]
    rfl
  · rw [if_neg whole] at read written
    have last : s.target + s.length <
        (Bitmap.writeRun target s.target (Bitmap.readRun source s.source s.length)).size := by
      rw [Bitmap.size_writeRun]
      omega
    rw [if_neg whole, if_neg whole, fetch_eq last]
    dsimp only
    rw [fetch_eq (by omega)]
    exact store_eq last _

section

variable {dst src b : Bitmap} {c : Rect} {p : Vec2} {row : Nat}

/-- The row of a rectangle inside a bitmap reaches no further than the buffer, counted in bits and
so for a last byte that is copied in part. -/
theorem row_reaches (wf : b.WellFormed) {start extent line : Nat}
    (right : start + extent ≤ b.size.x.toNat) (line_lt : line < b.size.y.toNat)
    (aligned : start * b.depth.bits % 8 = 0) :
    line * b.stride + start * b.depth.bits / 8 + extent * b.depth.bits / 8 +
      (if Span.tailMask (extent * b.depth.bits) = 0 then 0 else 1) ≤ b.pixels.size := by
  have fits := Bitmap.row_fits right aligned
  have ends := row_end_le line_lt (show _ ≤ b.stride from fits)
  rw [wf.bytes, Nat.mul_comm b.stride]
  omega

/-- Both ends of every row of a copy are in their buffers. -/
theorem ofRow_reaches (wf : dst.WellFormed) (src_wf : src.WellFormed)
    (fit : Bitmap.RowsFit dst src c p) (inside : row < c.size.y.toNat) :
    Reaches (Span.ofRow dst.depth src.stride dst.stride c p row)
        (Span.ofRow dst.depth src.stride dst.stride c p row).source src.pixels.size ∧
      Reaches (Span.ofRow dst.depth src.stride dst.stride c p row)
        (Span.ofRow dst.depth src.stride dst.stride c p row).target dst.pixels.size := by
  have source_aligned := Bitmap.aligned_bits (fun mono => (fit.aligned mono).1)
  have target_aligned := Bitmap.aligned_bits (fun mono => (fit.aligned mono).2)
  have source_row : c.origin.y.toNat + row < src.size.y.toNat := by
    have := fit.source_y
    omega
  have target_row : p.y.toNat + row < dst.size.y.toNat := by
    have := fit.target_y
    omega
  rw [Span.ofRow_eq]
  refine ⟨?_, row_reaches wf fit.target_x target_row target_aligned⟩
  rw [← fit.depth] at source_aligned ⊢
  exact row_reaches src_wf fit.source_x source_row source_aligned

theorem copyRows_eq (wf : dst.WellFormed) (src_wf : src.WellFormed)
    (fit : Bitmap.RowsFit dst src c p) : copyRows dst src c p = .ok (dst.copyRows src c p) := by
  unfold copyRows Bitmap.copyRows
  rw [foldlM_eq_foldl (g := Span.copy src.pixels) (·.size = dst.pixels.size) ?goes ?keep rfl]
  · rfl
  case goes =>
    intro s member buffer same
    simp only [Bitmap.rowSpans, List.mem_map, List.mem_reverse, List.mem_range] at member
    obtain ⟨row, inside, rfl⟩ := member
    obtain ⟨read, written⟩ := ofRow_reaches wf src_wf fit inside
    exact copySpan_eq read (same ▸ written)
  case keep => exact fun s _ buffer same => (Span.size_copy _ _ s).trans same

theorem moveRows_eq (wf : b.WellFormed) (placed : Rect.Placed b.size b.size c p)
    (bytes : b.depth ≠ .mono1) :
    moveRows b c p = .ok { b with
      pixels := (b.moveSpans c p).foldl (fun buffer s => Span.copy buffer buffer s) b.pixels } := by
  have fit : Bitmap.RowsFit b b c p := ⟨placed, rfl, fun mono => absurd mono bytes⟩
  unfold moveRows
  rw [foldlM_eq_foldl (g := fun buffer s => Span.copy buffer buffer s) (·.size = b.pixels.size)
    ?goes ?keep rfl]
  · rfl
  case goes =>
    intro s member buffer same
    have row : ∃ row < c.size.y.toNat, Span.ofRow b.depth b.stride b.stride c p row = s := by
      unfold Bitmap.moveSpans at member
      dsimp only at member
      split at member
      · simpa [and_comm] using member
      · simpa [and_comm] using member
    obtain ⟨row, inside, rfl⟩ := row
    obtain ⟨read, written⟩ := ofRow_reaches wf wf fit inside
    exact copySpan_eq (same ▸ read) (same ▸ written)
  case keep => exact fun s _ buffer same => (Span.size_copy _ _ s).trans same

end

end Guarded

end TileEngine
