import TileEngine.Proofs.Bitmap.Routes
import TileEngine.Surface

/-!
The one buffer of a picture. Besides the values of its pixels a buffer has
padding: the bits of a row past the last column, and the fourth byte of every
true-colour pixel. A canonical bitmap is a well-formed one in which all padding
is zero. Two canonical bitmaps whose pixels store the same values have the same
buffer, and every operation on canonical bitmaps gives a canonical one: a write
reaches the value bits of its own pixels, a copy of rows moves padding onto
padding, and a conversion starts from a zeroed buffer.
-/

namespace TileEngine

/-- The bits of a row that hold no value: those past the last column, and in each
true-colour pixel those of the fourth byte. -/
def Depth.IsPadding (depth : Depth) (width : UInt16) (j : Nat) : Prop :=
  width.toNat * depth.bits ≤ j ∨ depth.valueBits ≤ j % depth.bits

theorem Depth.isPadding_indexed {depth : Depth} (indexed : depth.isIndexed) {width : UInt16}
    {j : Nat} : depth.IsPadding width j ↔ width.toNat * depth.bits ≤ j := by
  unfold IsPadding
  cases depth with
  | mono1 => simp only [bits, valueBits]; omega
  | indexed8 => simp only [bits, valueBits]; omega
  | trueColor32 => contradiction

namespace Bitmap

/-- A well-formed bitmap with zero in all its padding. -/
structure Canonical (b : Bitmap) : Prop extends WellFormed b where
  padding : ∀ y < b.size.y.toNat, ∀ j < 8 * b.stride, b.depth.IsPadding b.size.x j →
    b.bitAt y j = false

section

variable {a b dst src : Bitmap} {c : Rect} {p : Vec2} {x y x' y' j : Nat}

/-! ## Equality -/

/-- Buffers of one shape are equal when the bits of their rows are. -/
theorem pixels_eq_of_bits (wf : b.WellFormed) (shape : SameShape a b)
    (bits : ∀ y < b.size.y.toNat, ∀ j < 8 * b.stride, a.bitAt y j = b.bitAt y j) :
    a.pixels = b.pixels := by
  apply Array.ext shape.bytes
  intro i hi hi'
  have size := wf.bytes
  have positive : 0 < b.stride := by
    apply Nat.pos_of_ne_zero
    intro zero
    rw [zero, Nat.zero_mul] at size
    omega
  have row : i / b.stride < b.size.y.toNat := by
    apply Nat.div_lt_of_lt_mul
    omega
  have column : i % b.stride < b.stride := Nat.mod_lt i positive
  have address : i / b.stride * b.stride + i % b.stride = i := by
    rw [Nat.mul_comm]
    exact Nat.div_add_mod i b.stride
  have byte : a.pixels.getD i 0 = b.pixels.getD i 0 := by
    rw [byte_eq_iff]
    intro k hk
    have bit := bits _ row (i % b.stride * 8 + k) (by omega)
    rwa [bitAt_byte _ _ _ hk, bitAt_byte _ _ _ hk, shape.stride, address] at bit
  simpa [Array.getD, hi, hi'] using byte

/-- A bitmap is determined by its shape and by the bits of its rows. -/
theorem eq_of_bits (wf : b.WellFormed) (shape : SameShape a b)
    (bits : ∀ y < b.size.y.toNat, ∀ j < 8 * b.stride, a.bitAt y j = b.bitAt y j) : a = b := by
  have pixels := pixels_eq_of_bits wf shape bits
  obtain ⟨size, depth, palette, -⟩ := shape
  cases a
  cases b
  simp_all

/-- Canonical bitmaps of one shape have the same padding. -/
theorem Canonical.padding_eq (ha : a.Canonical) (hb : b.Canonical) (shape : SameShape a b) :
    ∀ y < b.size.y.toNat, ∀ j < 8 * b.stride, b.depth.IsPadding b.size.x j →
      a.bitAt y j = b.bitAt y j := by
  intro y hy j hj padding
  rw [hb.padding y hy j hj padding]
  apply ha.padding y (shape.size ▸ hy) j (shape.stride ▸ hj)
  rw [shape.depth, shape.size]
  exact padding

/-- A canonical bitmap is determined by its shape and by what its pixels store. -/
theorem Canonical.eq_of_stored (ha : a.Canonical) (hb : b.Canonical) (shape : SameShape a b)
    (stored : ∀ x < b.size.x.toNat, ∀ y < b.size.y.toNat, a.stored x y = b.stored x y) : a = b := by
  refine eq_of_bits hb.toWellFormed shape fun y hy j hj => ?_
  by_cases padding : b.depth.IsPadding b.size.x j
  · exact ha.padding_eq hb shape y hy j hj padding
  · -- a bit of a pixel: the stored values agree on it
    unfold Depth.IsPadding at padding
    rw [not_or, not_le, not_le] at padding
    have column : j / b.depth.bits < b.size.x.toNat := Nat.div_lt_of_lt_mul (by
      rw [Nat.mul_comm]
      exact padding.1)
    have bits := (stored_eq_iff_bits shape.depth).mp (stored _ column y hy) _ padding.2
    rwa [Nat.div_add_mod'] at bits

/-- The indices or colours that can be asked for are the stored values. -/
theorem agree_iff_stored (size : a.size = b.size) (depth : a.depth = b.depth) :
    (∀ q, if b.depth.isIndexed then a.getIndex q = b.getIndex q else a.colorAt q = b.colorAt q) ↔
      ∀ x < b.size.x.toNat, ∀ y < b.size.y.toNat, a.stored x y = b.stored x y := by
  by_cases indexed : b.depth.isIndexed = true
  · simp only [getIndex, stored, depth, size, indexed, if_true, Bool.true_and, Sum.inl.injEq]
    exact Vec2.forall_position_iff
  · have wide := trueColor32_of_not_indexed indexed
    simp only [colorAt_eq, stored, shownAt_trueColor32 wide, shownAt_trueColor32 (depth.trans wide),
      depth, size, if_neg indexed, Sum.inr.injEq]
    exact Vec2.forall_position_iff

theorem Canonical.recolor (h : b.Canonical) {palette : Palette}
    (fits : palette.len ≤ b.depth.maxPalette) : Canonical { b with palette := palette } :=
  ⟨⟨h.bytes, fits⟩, h.padding⟩

/-- Two canonical bitmaps are equal exactly when they agree on size, depth and active
palette and on the stored index or colour at every position. -/
theorem Canonical.same_iff (ha : a.Canonical) (hb : b.Canonical) :
    a.same b = true ↔
      a.size = b.size ∧ a.depth = b.depth ∧ a.palette.active = b.palette.active ∧
        ∀ q, if b.depth.isIndexed then a.getIndex q = b.getIndex q else a.colorAt q = b.colorAt q := by
  simp only [same, Bool.and_eq_true, beq_iff_eq, Palette.same_iff]
  constructor
  · rintro ⟨⟨⟨size, depth⟩, pixels⟩, active⟩
    refine ⟨size, depth, active, (agree_iff_stored size depth).mpr ?_⟩
    intro x _ y _
    simp only [stored, readIndex, readTexel, stride, size, depth, pixels]
  · rintro ⟨size, depth, active, agree⟩
    refine ⟨⟨⟨size, depth⟩, ?_⟩, active⟩
    rw [agree_iff_stored size depth] at agree
    -- the palettes may differ in cells that are not active, which no pixel reads
    have recolored : Canonical { b with palette := a.palette } := hb.recolor (depth ▸ ha.palette_fits)
    have bytes : a.pixels.size = b.pixels.size := by
      rw [ha.bytes, hb.bytes, stride, stride, size, depth]
    have equal : a = { b with palette := a.palette } :=
      ha.eq_of_stored recolored ⟨size, depth, rfl, bytes⟩ agree
    rw [equal]

/-! ## Writes -/

/-- A bitmap of the shape of a canonical one is canonical when its padding is zero. -/
theorem Canonical.of_shape (h : b.Canonical) (shape : SameShape a b)
    (padding : ∀ y < b.size.y.toNat, ∀ j < 8 * b.stride, b.depth.IsPadding b.size.x j →
      a.bitAt y j = false) : a.Canonical := by
  refine ⟨shape.wellFormed h.toWellFormed, ?_⟩
  rw [shape.size, shape.depth, shape.stride]
  exact padding

theorem canonical_blank (size : Vec2) {depth : Depth} {palette : Palette}
    (fits : palette.len ≤ depth.maxPalette) : (blank size depth palette).Canonical := by
  refine ⟨wellFormed_blank size fits, fun y _ j _ _ => ?_⟩
  rw [bitAt, blank, getD_zeros, bitOf_zero]

/-- A run of bytes inside one row, bit by bit. -/
theorem bitAt_writeRun (wf : b.WellFormed) {start : Nat} {bytes : List UInt8}
    (fits : start + bytes.length ≤ b.stride) (hy' : y' < b.size.y.toNat) (hj : j < 8 * b.stride) :
    bitAt { b with pixels := writeRun b.pixels (y * b.stride + start) bytes } y' j =
      if y' = y ∧ start ≤ j / 8 ∧ j / 8 < start + bytes.length then
        bitOf (bytes.getD (j / 8 - start) 0) (j % 8)
      else b.bitAt y' j := by
  have column : j / 8 < b.stride := by omega
  have inside := address_lt hy' column wf.bytes
  change bitOf (Array.getD (writeRun _ _ _) (y' * b.stride + j / 8) 0) (j % 8) = _
  rw [getD_writeRun]
  rcases Nat.lt_trichotomy y' y with lt | rfl | lt
  · have := row_end_le lt (show j / 8 + 1 ≤ b.stride from column)
    rw [if_neg (by omega), if_neg (by omega), bitAt]
  · by_cases covered : start ≤ j / 8 ∧ j / 8 < start + bytes.length
    · rw [if_pos (by omega), if_pos ⟨rfl, covered⟩, Nat.add_sub_add_left]
    · rw [if_neg (by omega), if_neg (fun here => covered here.2), bitAt]
  · have := row_end_le lt fits
    rw [if_neg (by omega), if_neg (by omega), bitAt]

/-- The bit of a pixel, counted from the left, when it stores an index. -/
def indexBit (depth : Depth) (i : UInt8) (k : Nat) : Bool :=
  if depth = .mono1 then decide (i &&& 1 ≠ 0) else bitOf i k

/-- Writing an index sets the bits of its own pixel and leaves all others alone. -/
theorem bitAt_writeIndex (wf : b.WellFormed) (indexed : b.depth.isIndexed)
    (hx : x < b.size.x.toNat) (i : UInt8) (hy' : y' < b.size.y.toNat) (hj : j < 8 * b.stride) :
    (b.writeIndex x y i).bitAt y' j =
      if y' = y ∧ j / b.depth.bits = x then indexBit b.depth i (j % b.depth.bits)
      else b.bitAt y' j := by
  unfold writeIndex
  split
  · rename_i depth
    have column := column_lt_stride_mono1 depth hx
    change bitAt { b with pixels := writeRun b.pixels (y * b.stride + x / 8) [_] } y' j = _
    rw [bitAt_writeRun wf column hy' hj, List.length_singleton, depth, Depth.bits, Nat.div_one,
      indexBit, if_pos rfl]
    by_cases byte : y' = y ∧ j / 8 = x / 8
    · -- a byte holds eight pixels: the bit tells whether it is this one
      rw [if_pos (by omega), byte.2, Nat.sub_self, List.getD_cons_zero,
        bitOf_writeBit _ _ _ (Nat.mod_lt _ (by decide))]
      by_cases bit : j % 8 = x % 8
      · rw [if_pos bit, if_pos ⟨byte.1, by omega⟩]
      · rw [if_neg bit, if_neg (by omega), bitAt, byte.1, byte.2]
    · rw [if_neg (by omega), if_neg (by omega)]
  · rename_i depth
    have column := column_lt_stride_indexed8 depth hx
    change bitAt { b with pixels := writeRun b.pixels (y * b.stride + x) [i] } y' j = _
    rw [bitAt_writeRun wf column hy' hj, List.length_singleton, depth, Depth.bits, indexBit,
      if_neg (show ¬Depth.indexed8 = .mono1 by decide)]
    by_cases pixel : y' = y ∧ j / 8 = x
    · rw [if_pos (by omega), if_pos pixel, pixel.2, Nat.sub_self, List.getD_cons_zero]
    · rw [if_neg (by omega), if_neg pixel]
  · rename_i depth
    rw [depth] at indexed
    contradiction

theorem Canonical.writeIndex (h : b.Canonical) (hx : x < b.size.x.toNat) (i : UInt8) :
    (b.writeIndex x y i).Canonical := by
  by_cases indexed : b.depth.isIndexed = true
  · refine h.of_shape (sameShape_writeIndex b x y i) fun y' hy' j hj padding => ?_
    rw [bitAt_writeIndex h.toWellFormed indexed hx i hy' hj, if_neg]
    · exact h.padding y' hy' j hj padding
    · rw [Depth.isPadding_indexed indexed] at padding
      rintro ⟨-, rfl⟩
      have past := (Nat.le_div_iff_mul_le b.depth.bits_pos).mpr padding
      omega
  · have depth := trueColor32_of_not_indexed indexed
    rw [Bitmap.writeIndex, depth]
    exact h

/-- Writing a colour sets the bits of its own pixel, the fourth byte included, and leaves all
others alone. -/
theorem bitAt_writeTexel (wf : b.WellFormed) (depth : b.depth = .trueColor32)
    (hx : x < b.size.x.toNat) (color : Color) (hy' : y' < b.size.y.toNat) (hj : j < 8 * b.stride) :
    (b.writeTexel x y color).bitAt y' j =
      if y' = y ∧ j / 32 = x then bitOf ((texelBytes color).getD (j % 32 / 8) 0) (j % 32 % 8)
      else b.bitAt y' j := by
  have column := column_le_stride_trueColor32 depth hx
  have length : (texelBytes color).length = 4 := rfl
  rw [writeTexel, bitAt_writeRun wf (by omega) hy' hj, length]
  by_cases pixel : y' = y ∧ j / 32 = x
  · -- the byte in the run and the bit in the byte, counted from the start of the pixel
    rw [if_pos (by omega), if_pos pixel, show j / 8 - x * 4 = j % 32 / 8 by omega,
      show j % 32 % 8 = j % 8 by omega]
  · rw [if_neg (by omega), if_neg pixel]

theorem Canonical.writeTexel (h : b.Canonical) (depth : b.depth = .trueColor32)
    (hx : x < b.size.x.toNat) (color : Color) : (b.writeTexel x y color).Canonical := by
  refine h.of_shape (sameShape_writeTexel b x y color) fun y' hy' j hj padding => ?_
  rw [bitAt_writeTexel h.toWellFormed depth hx color hy' hj]
  split
  · -- only the fourth byte of this pixel is padding
    rename_i here
    simp only [Depth.IsPadding, depth, Depth.bits, Depth.valueBits] at padding
    have last : j % 32 / 8 = 3 := by omega
    rw [last]
    exact bitOf_zero _
  · exact h.padding y' hy' j hj padding

/-- A scan of writes that each keep a bitmap canonical. -/
theorem Canonical.scan {update : Nat → Nat → Bitmap → Bitmap} {size : Vec2} (h : b.Canonical)
    (width : size.x = b.size.x) (shape : ∀ x y s, SameShape (update x y s) s)
    (keep : ∀ x < b.size.x.toNat, ∀ y, ∀ s, SameShape s b → s.Canonical → (update x y s).Canonical) :
    (scan size update b).Canonical := by
  refine (scan_keeps (fun s => s.Canonical ∧ SameShape s b) ?_ ⟨h, SameShape.refl b⟩).1
  intro x hx y _ s hs
  exact ⟨keep x (width ▸ hx) y s hs.2 hs.1, (shape x y s).trans hs.2⟩

theorem Canonical.scan_indexes (h : b.Canonical) (index : Nat → Nat → UInt8) :
    (Bitmap.scan b.size (fun x y s => s.writeIndex x y (index x y)) b).Canonical := by
  refine h.scan rfl (fun x y s => sameShape_writeIndex s x y _) fun x hx y s shape hs => ?_
  exact hs.writeIndex (shape.size ▸ hx) _

theorem Canonical.scan_texels (h : b.Canonical) (depth : b.depth = .trueColor32)
    (color : Nat → Nat → Color) :
    (Bitmap.scan b.size (fun x y s => s.writeTexel x y (color x y)) b).Canonical := by
  refine h.scan rfl (fun x y s => sameShape_writeTexel s x y _) fun x hx y s shape hs => ?_
  exact hs.writeTexel (shape.depth.trans depth) (shape.size ▸ hx) _

/-! ## Colours of single pixels -/

theorem sameShape_setColor (b : Bitmap) (q : Vec2) (color : Color) :
    SameShape (b.setColor q color) b := by
  unfold setColor
  split
  · exact SameShape.refl b
  · split
    · exact sameShape_writeTexel b _ _ color
    · exact sameShape_writeIndex b _ _ _

theorem Canonical.setColor (h : b.Canonical) (q : Vec2) (color : Color) :
    (b.setColor q color).Canonical := by
  unfold Bitmap.setColor
  split
  · exact h
  · rename_i inside
    rw [Bool.not_eq_true', Bool.not_eq_false, Vec2.inside_iff] at inside
    split
    · rename_i depth
      exact h.writeTexel depth inside.1 color
    · exact h.writeIndex inside.1 _

/-- What every single pixel keeps, a copy from any surface keeps. -/
theorem surface_blit_keeps {σ : Type} [Surface σ] (inv : Bitmap → Prop)
    (keep : ∀ s q color, inv s → inv (s.setColor q color)) (holds : inv b) (source : σ) (r : Rect)
    (p : Vec2) : inv (Surface.blit b source r p) := by
  unfold Surface.blit
  split
  · exact holds
  · refine scan_keeps inv (fun x _ y _ s hs => ?_) holds
    split
    · exact keep s _ _ hs
    · exact hs

theorem sameShape_surface_blit {σ : Type} [Surface σ] (b : Bitmap) (source : σ) (r : Rect) (p : Vec2) :
    SameShape (Surface.blit b source r p) b :=
  surface_blit_keeps (SameShape · b) (fun s q color hs => (sameShape_setColor s q color).trans hs)
    (SameShape.refl b) source r p

theorem Canonical.surface_blit {σ : Type} [Surface σ] (h : b.Canonical) (source : σ) (r : Rect)
    (p : Vec2) : (Surface.blit b source r p).Canonical :=
  surface_blit_keeps Canonical (fun _ q color hs => hs.setColor q color) h source r p

/-! ## Filling -/

/-- A row of texels repeats the four bytes of its colour. -/
theorem getD_texels (n : Nat) (color : Color) {i : Nat} (inside : i < n * 4) :
    (List.replicate n (texelBytes color)).flatten.getD i 0 = (texelBytes color).getD (i % 4) 0 := by
  induction n generalizing i with
  | zero => omega
  | succ n ih =>
    rw [List.replicate_succ, List.flatten_cons, List.getD_eq_getElem?_getD]
    rcases Nat.lt_or_ge i 4 with first | later
    · rw [List.getElem?_append_left (by simpa [texelBytes] using first),
        ← List.getD_eq_getElem?_getD, Nat.mod_eq_of_lt first]
    · have length : (texelBytes color).length = 4 := rfl
      rw [List.getElem?_append_right (by simpa [texelBytes] using later), ← List.getD_eq_getElem?_getD,
        length, ih (by omega), ← Nat.mod_eq_sub_mod later]

theorem length_texels (n : Nat) (color : Color) :
    (List.replicate n (texelBytes color)).flatten.length = n * 4 := by
  simp [texelBytes]

theorem sameShape_fillRows (b : Bitmap) (row : List UInt8) : SameShape (b.fillRows row) b := by
  apply SameShape.of_pixels
  refine List.foldlRecOn (motive := fun buffer : Array UInt8 => buffer.size = b.pixels.size) _ _ rfl
    fun buffer size y _ => ?_
  rw [size_writeRun]
  exact size

/-- The same bytes at the start of every row, bit by bit. -/
theorem bitAt_fillRows (wf : b.WellFormed) {row : List UInt8} (fits : row.length ≤ b.stride)
    (hy : y < b.size.y.toNat) (hj : j < 8 * b.stride) :
    (b.fillRows row).bitAt y j =
      if j / 8 < row.length then bitOf (row.getD (j / 8) 0) (j % 8) else b.bitAt y j := by
  have write (line : Nat) (buffer : Array UInt8) (size : buffer.size = b.pixels.size) :
      bitAt { b with pixels := writeRun buffer (line * b.stride) row } y j =
        if y = line ∧ j / 8 < row.length then bitOf (row.getD (j / 8) 0) (j % 8)
        else bitAt { b with pixels := buffer } y j := by
    have shape : SameShape { b with pixels := buffer } b := SameShape.of_pixels b size
    have start : 0 + row.length ≤ b.stride := by omega
    have run := bitAt_writeRun (y := line) (shape.wellFormed wf) start hy hj
    simp only [Nat.zero_le, true_and, Nat.zero_add, Nat.sub_zero, Nat.add_zero] at run
    exact run
  have read := foldl_read (fun buffer line => writeRun buffer (line * b.stride) row)
    (fun buffer => bitAt { b with pixels := buffer } y j) (·.size = b.pixels.size)
    (fun line => y = line ∧ j / 8 < row.length) (bitOf (row.getD (j / 8) 0) (j % 8))
    (List.range b.size.y.toNat) (fun line _ buffer size => (size_writeRun _ _ _).trans size)
    (fun line _ buffer size own => by rw [write line buffer size, if_pos own])
    (fun line _ buffer size other => by rw [write line buffer size, if_neg other]) b.pixels rfl
  by_cases covered : j / 8 < row.length
  · rw [if_pos covered]
    exact read.1 ⟨y, List.mem_range.mpr hy, rfl, covered⟩
  · rw [if_neg covered]
    refine read.2 ?_
    rintro ⟨line, -, -, inside⟩
    exact covered inside

/-- Rows filled with the same bytes stay canonical when these have zero where they
meet padding. -/
theorem Canonical.fillRows (h : b.Canonical) {row : List UInt8} (fits : row.length ≤ b.stride)
    (zero : ∀ j, j / 8 < row.length → b.depth.IsPadding b.size.x j →
      bitOf (row.getD (j / 8) 0) (j % 8) = false) : (b.fillRows row).Canonical := by
  refine h.of_shape (sameShape_fillRows b row) fun y hy j hj padding => ?_
  rw [bitAt_fillRows h.toWellFormed fits hy hj]
  split
  · rename_i covered
    exact zero j covered padding
  · exact h.padding y hy j hj padding

theorem Canonical.fill (h : b.Canonical) (color : Color) : (b.fill color).Canonical := by
  have columns := b.depth.bits_le_stride b.size.x
  unfold Bitmap.fill
  split
  · rename_i depth
    rw [depth] at columns
    simp only [Depth.bits] at columns
    refine h.fillRows ?_ fun j inside padding => ?_
    · rw [length_texels, stride, depth]
      omega
    · rw [length_texels] at inside
      simp only [Depth.IsPadding, depth, Depth.bits, Depth.valueBits] at padding
      rw [getD_texels _ _ inside, show j / 8 % 4 = 3 by omega]
      exact bitOf_zero _
  · rename_i depth
    rw [depth] at columns
    simp only [Depth.bits] at columns
    refine h.fillRows ?_ fun j inside padding => ?_
    · rw [List.length_replicate, stride, depth]
      omega
    · -- the row ends before the padding does
      rw [List.length_replicate] at inside
      simp only [Depth.IsPadding, depth, Depth.bits, Depth.valueBits] at padding
      omega
  · exact h.scan_indexes _

theorem sameShape_fill (b : Bitmap) (color : Color) : SameShape (b.fill color) b := by
  unfold fill
  split
  · exact sameShape_fillRows b _
  · exact sameShape_fillRows b _
  · exact scan_keeps (SameShape · b)
      (fun x _ y _ s hs => (sameShape_writeIndex s x y _).trans hs) (SameShape.refl b)

/-! ## Copies of rows -/

/-- One row of a copy moves padding onto padding only. -/
theorem Canonical.copyRow (fit : RowsFit dst src c p) (h : b.Canonical) (shape : SameShape b dst)
    (hs : src.Canonical) {row : Nat} (hrow : row < c.size.y.toNat) :
    (copyRow dst src c p b row).Canonical := by
  refine h.of_shape (sameShape_copyRow dst src c p b row) fun y hy j hj padding => ?_
  have kept := h.padding y hy j hj padding
  rw [shape.size] at hy padding
  rw [shape.stride] at hj
  rw [shape.depth] at padding
  rw [bitAt_copyRow fit h.toWellFormed shape hy hj]
  split
  · rename_i here
    obtain ⟨-, left, right⟩ := here
    have target := Nat.mul_le_mul_right dst.depth.bits fit.target_x
    have source := Nat.mul_le_mul_right dst.depth.bits fit.source_x
    rw [Nat.add_mul] at target source
    apply hs.padding
    · have := fit.source_y
      omega
    · have := src.depth.bits_le_stride src.size.x
      rw [fit.depth] at this
      rw [stride, fit.depth]
      omega
    · -- inside the rectangle padding is part of a pixel, and at the same place in its source
      right
      have within := padding.resolve_left (by omega)
      rwa [fit.depth, Nat.mul_add_mod', Nat.mul_comm p.x.toNat,
        Nat.sub_mul_mod (by rwa [Nat.mul_comm])]
  · exact kept

theorem Canonical.copyRows (fit : RowsFit dst src c p) (h : dst.Canonical) (hs : src.Canonical) :
    (dst.copyRows src c p).Canonical := by
  rw [copyRows_eq_foldl]
  have rows := List.foldlRecOn (motive := fun b => b.Canonical ∧ SameShape b dst)
    (List.range c.size.y.toNat).reverse (Bitmap.copyRow dst src c p) ⟨h, SameShape.refl dst⟩
    (fun b hb row member => by
      rw [List.mem_reverse, List.mem_range] at member
      exact ⟨hb.1.copyRow fit hb.2 hs member, (sameShape_copyRow dst src c p b row).trans hb.2⟩)
  exact rows.1

/-- One row of a move inside a bitmap, which reads what the rows before it left. -/
def moveRow (b : Bitmap) (c : Rect) (p : Vec2) (s : Bitmap) (row : Nat) : Bitmap :=
  copyRow b s c p s row

theorem moveRows_eq_foldl (b : Bitmap) (c : Rect) (p : Vec2) (rows : List Nat) (buffer : Array UInt8) :
    { b with
      pixels := (rows.map (Span.ofRow b.depth b.stride b.stride c p)).foldl
        (fun buffer s => Span.copy buffer buffer s) buffer } =
      rows.foldl (moveRow b c p) { b with pixels := buffer } := by
  induction rows generalizing buffer with
  | nil => rfl
  | cons row rest ih => exact ih _

theorem Canonical.moveRows (h : b.Canonical) (placed : Rect.Placed b.size b.size c p)
    (bytes : b.depth ≠ .mono1) {rows : List Nat} (inside : ∀ row ∈ rows, row < c.size.y.toNat) :
    (rows.foldl (moveRow b c p) b).Canonical ∧ SameShape (rows.foldl (moveRow b c p) b) b := by
  refine List.foldlRecOn (motive := fun s => s.Canonical ∧ SameShape s b) rows _
    ⟨h, SameShape.refl b⟩ fun s hs row member => ?_
  have fit : RowsFit b s c p := ⟨hs.2.size.symm ▸ placed, hs.2.depth, fun mono => absurd mono bytes⟩
  exact ⟨hs.1.copyRow fit hs.2 hs.1 (inside row member), (sameShape_copyRow b s c p s row).trans hs.2⟩

/-! ## Conversions -/

theorem Canonical.convertInto (h : b.Canonical) {depth : Depth} {palette : Palette}
    (fits : palette.len ≤ depth.maxPalette) : (b.convertInto depth palette).Canonical := by
  have start := canonical_blank b.size fits
  unfold Bitmap.convertInto
  cases source : b.depth.isIndexed <;> cases target : depth.isIndexed
  · -- between true colours the buffer itself is taken over
    have same : b.depth = depth :=
      (isIndexed_eq_false_iff.mp source).trans (isIndexed_eq_false_iff.mp target).symm
    subst same
    exact ⟨⟨h.bytes, fits⟩, h.padding⟩
  · dsimp only
    rw [scan_quantize]
    exact start.scan_indexes _
  · exact start.scan_texels (isIndexed_eq_false_iff.mp target) _
  · exact start.scan_indexes _

/-! ## Copies on every route -/

theorem Canonical.overlay (h : dst.Canonical) (hs : src.Canonical) (depth : dst.depth = .trueColor32)
    (placed : Rect.Placed src.size dst.size c p) : (dst.overlay src c p).Canonical := by
  unfold Bitmap.overlay
  split
  · rename_i source
    exact h.copyRows (RowsFit.of_trueColor32 placed depth source) hs
  · have shape := sameShape_convert_trueColor32 hs.toWellFormed dst.palette
    exact h.copyRows (RowsFit.of_trueColor32 (shape.size ▸ placed) depth shape.depth)
      (hs.convertInto dst.palette.len_le)

theorem Canonical.overlayStaged (h : dst.Canonical) (hs : src.Canonical)
    (placed : Rect.Placed src.size dst.size c p) : (dst.overlayStaged src c p).Canonical := by
  have wide : (dst.convertInto .trueColor32 dst.palette).Canonical :=
    h.convertInto dst.palette.len_le
  have shape := sameShape_convert_trueColor32 h.toWellFormed dst.palette
  rw [(overlayStaged_eq h.toWellFormed src c p).2]
  refine Canonical.convertInto ?_ h.palette_fits
  exact wide.overlay hs shape.depth (shape.size ▸ placed)

theorem Canonical.overlaySameDepth (h : dst.Canonical) (hs : src.Canonical)
    (placed : Rect.Placed src.size dst.size c p) (depth : src.depth = dst.depth) :
    (dst.overlaySameDepth src c p).Canonical := by
  unfold Bitmap.overlaySameDepth
  split
  · rename_i direct
    exact h.copyRows (RowsFit.of_direct placed depth direct) hs
  · exact h.overlayStaged hs placed

theorem Canonical.cloneRegion (h : b.Canonical) (r : Rect) : (b.cloneRegion r).Canonical := by
  have start := canonical_blank (r.clampedTo b.size).size h.palette_fits
  rw [cloneRegion_eq]
  split
  · exact start
  · exact start.overlaySameDepth h (placed_region b r) rfl

theorem Canonical.blit (h : dst.Canonical) (hs : src.Canonical) (r : Rect) (p : Vec2) :
    (dst.blit src r p).Canonical := by
  cases clipped : Rect.clip src.size dst.size r p with
  | none =>
    rw [blit_of_clip_none clipped]
    exact h
  | some c =>
    have placed := Rect.placed_of_clip clipped
    rcases blit_cases clipped with ⟨wide, route⟩ | route | ⟨depth, fast, route⟩ | ⟨-, route⟩ <;>
      rw [route]
    · exact h.overlay hs wide placed
    · exact h.overlayStaged hs placed
    · exact h.copyRows (fits_of_fast placed depth fast).1 hs
    · have stands := standsFor_recoded h.toWellFormed hs.toWellFormed placed
      have source : (dst.recoded src c).1.Canonical := by
        unfold recoded
        split
        · exact hs.convertInto h.palette_fits
        · exact (hs.cloneRegion c).convertInto h.palette_fits
      exact h.overlaySameDepth source stands.placed stands.colors.depth

/-- A move inside a bitmap keeps it canonical: a single-bit bitmap by way of a copy
of the rectangle, the other ones row by row. -/
theorem Canonical.blitWithin (h : b.Canonical) (r : Rect) (p : Vec2) :
    (b.blitWithin r p).Canonical ∧ SameShape (b.blitWithin r p) b := by
  unfold Bitmap.blitWithin
  cases clipped : Rect.clip b.size b.size r p with
  | none => exact ⟨h, SameShape.refl b⟩
  | some c =>
    dsimp only
    by_cases mono : b.depth = .mono1
    · rw [if_pos mono]
      exact ⟨h.blit (h.cloneRegion c) _ p, sameShape_blit h.toWellFormed _ _ p⟩
    · rw [if_neg mono, moveSpans, moveRows_eq_foldl]
      apply h.moveRows (Rect.placed_of_clip clipped) mono
      intro row member
      split at member
      · exact List.mem_range.mp (List.mem_reverse.mp member)
      · exact List.mem_range.mp member

end

end Bitmap

end TileEngine
