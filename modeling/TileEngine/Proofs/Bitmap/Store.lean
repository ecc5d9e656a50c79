import TileEngine.Proofs.Bitmap.Buffer

/-!
What a pixel stores. A well-formed bitmap has a buffer of the size that its depth
and extent ask for and a palette that its depth can address. Below, the three
encodings are read through one view, `Bitmap.stored`: a palette index or a
colour at a column and a row. The write accessors change this view at their own
pixel and nowhere else.
-/

namespace TileEngine

/-! ## Addresses -/

/-- Rows do not overlap: what lies in a row ends before the next one starts. -/
theorem row_end_le {y y' stride k : Nat} (lt : y < y') (le : k ≤ stride) :
    y * stride + k ≤ y' * stride :=
  calc y * stride + k ≤ y * stride + stride := by omega
    _ = (y + 1) * stride := (Nat.succ_mul y stride).symm
    _ ≤ y' * stride := Nat.mul_le_mul_right stride lt

theorem address_lt {y height stride k bytes : Nat} (hy : y < height) (hk : k < stride)
    (size : bytes = stride * height) : y * stride + k < bytes := by
  have := row_end_le hy (show k + 1 ≤ stride from hk)
  rw [size, Nat.mul_comm stride height]
  omega

theorem address_inj {y y' stride k k' : Nat} (hk : k < stride) (hk' : k' < stride) :
    y * stride + k = y' * stride + k' ↔ y = y' ∧ k = k' := by
  constructor
  · intro equal
    rcases Nat.lt_trichotomy y y' with lt | rfl | lt
    · have := row_end_le lt (show k + 1 ≤ stride from hk)
      omega
    · exact ⟨rfl, by omega⟩
    · have := row_end_le lt (show k' + 1 ≤ stride from hk')
      omega
  · rintro ⟨rfl, rfl⟩
    rfl

/-- The leading bits of a pixel that hold its value: all of them, save the fourth
byte of a true-colour pixel. -/
def Depth.valueBits : Depth → Nat
  | .trueColor32 => 24
  | depth => depth.bits

theorem Depth.bits_pos (depth : Depth) : 0 < depth.bits := by
  cases depth <;> decide

theorem Depth.valueBits_le (depth : Depth) : depth.valueBits ≤ depth.bits := by
  cases depth <;> decide

/-- The bits of a row of pixels are inside the stride. -/
theorem Depth.bits_le_stride (depth : Depth) (width : UInt16) :
    width.toNat * depth.bits ≤ 8 * depth.stride width := by
  unfold Depth.stride
  omega

theorem Depth.bit_lt_stride {depth : Depth} {width : UInt16} {x m : Nat} (hx : x < width.toNat)
    (hm : m < depth.valueBits) : x * depth.bits + m < 8 * depth.stride width := by
  have within := row_end_le hx (depth.valueBits_le)
  have := depth.bits_le_stride width
  omega

/-- What remains of an index when a depth stores it: a single bit is the lowest
one. -/
def Depth.kept (depth : Depth) (i : UInt8) : UInt8 := if depth = .mono1 then i &&& 1 else i

namespace Bitmap

/-- The buffer has the bytes that depth and extent ask for, and the palette is
one that the depth can address. -/
structure WellFormed (b : Bitmap) : Prop where
  bytes : b.pixels.size = b.stride * b.size.y.toNat
  palette_fits : b.palette.len ≤ b.depth.maxPalette

/-- Two bitmaps that differ in what their pixels store and in nothing else. -/
structure SameShape (a b : Bitmap) : Prop where
  size : a.size = b.size
  depth : a.depth = b.depth
  palette : a.palette = b.palette
  bytes : a.pixels.size = b.pixels.size

namespace SameShape

variable {a b c : Bitmap}

@[simp] theorem refl (a : Bitmap) : SameShape a a := ⟨rfl, rfl, rfl, rfl⟩

theorem symm (h : SameShape a b) : SameShape b a :=
  ⟨h.size.symm, h.depth.symm, h.palette.symm, h.bytes.symm⟩

theorem trans (h : SameShape a b) (h' : SameShape b c) : SameShape a c :=
  ⟨h.size.trans h'.size, h.depth.trans h'.depth, h.palette.trans h'.palette,
    h.bytes.trans h'.bytes⟩

theorem stride (h : SameShape a b) : a.stride = b.stride := by
  rw [Bitmap.stride, Bitmap.stride, h.size, h.depth]

theorem effectivePalette (h : SameShape a b) : a.effectivePalette = b.effectivePalette := by
  rw [Bitmap.effectivePalette, Bitmap.effectivePalette, h.depth, h.palette]

theorem wellFormed (h : SameShape a b) (hb : b.WellFormed) : a.WellFormed := by
  refine ⟨?_, ?_⟩
  · rw [h.bytes, hb.bytes, h.stride, h.size]
  · rw [h.palette, h.depth]
    exact hb.palette_fits

/-- Exchanging the buffer for one of the same length keeps the shape. -/
theorem of_pixels (b : Bitmap) {pixels : Array UInt8} (size : pixels.size = b.pixels.size) :
    SameShape { b with pixels := pixels } b :=
  ⟨rfl, rfl, rfl, size⟩

end SameShape

theorem column_lt_stride_mono1 {b : Bitmap} (depth : b.depth = .mono1) {x : Nat}
    (hx : x < b.size.x.toNat) : x / 8 < b.stride := by
  rw [stride, Depth.stride, depth, Depth.bits]
  omega

theorem column_lt_stride_indexed8 {b : Bitmap} (depth : b.depth = .indexed8) {x : Nat}
    (hx : x < b.size.x.toNat) : x < b.stride := by
  rw [stride, Depth.stride, depth, Depth.bits]
  omega

theorem column_le_stride_trueColor32 {b : Bitmap} (depth : b.depth = .trueColor32) {x : Nat}
    (hx : x < b.size.x.toNat) : x * 4 + 4 ≤ b.stride := by
  rw [stride, Depth.stride, depth, Depth.bits]
  omega

theorem wellFormed_blank (size : Vec2) {depth : Depth} {palette : Palette}
    (fits : palette.len ≤ depth.maxPalette) : (blank size depth palette).WellFormed :=
  ⟨by simp [blank, stride], fits⟩

theorem sameShape_writeIndex (b : Bitmap) (x y : Nat) (i : UInt8) :
    SameShape (b.writeIndex x y i) b := by
  unfold writeIndex
  split
  · exact SameShape.of_pixels b Array.size_setIfInBounds
  · exact SameShape.of_pixels b Array.size_setIfInBounds
  · exact SameShape.refl b

theorem sameShape_writeTexel (b : Bitmap) (x y : Nat) (c : Color) :
    SameShape (b.writeTexel x y c) b :=
  SameShape.of_pixels b (size_writeRun _ _ _)

/-! ## The view -/

/-- What the pixel at a column and a row stores: a palette index, or a colour. -/
def stored (b : Bitmap) (x y : Nat) : UInt8 ⊕ Color :=
  if b.depth.isIndexed then .inl (b.readIndex x y) else .inr (b.readTexel x y)

theorem stored_mono1 {b : Bitmap} (depth : b.depth = .mono1) (x y : Nat) :
    b.stored x y =
      .inl (if bitOf (b.pixels.getD (y * b.stride + x / 8) 0) (x % 8) then 1 else 0) := by
  rw [stored, if_pos (by rw [depth]; rfl), readIndex, depth]
  simp only
  rw [shiftRight_and_one _ (Nat.mod_lt _ (by decide))]

theorem stored_indexed8 {b : Bitmap} (depth : b.depth = .indexed8) (x y : Nat) :
    b.stored x y = .inl (b.pixels.getD (y * b.stride + x) 0) := by
  rw [stored, if_pos (by rw [depth]; rfl), readIndex, depth]

theorem stored_trueColor32 {b : Bitmap} (depth : b.depth = .trueColor32) (x y : Nat) :
    b.stored x y = .inr (b.readTexel x y) := by
  rw [stored, if_neg (by rw [depth]; decide)]

theorem getIndex_eq_some_iff {b : Bitmap} {p : Vec2} {i : UInt8} :
    b.getIndex p = some i ↔
      p.inside b.size = true ∧ b.stored p.x.toNat p.y.toNat = .inl i := by
  unfold getIndex stored
  by_cases indexed : b.depth.isIndexed = true
  · simp [indexed]
  · simp [indexed]

theorem readTexel_eq {b : Bitmap} (x y : Nat) :
    b.readTexel x y =
      ⟨b.pixels.getD (y * b.stride + x * 4 + 0) 0, b.pixels.getD (y * b.stride + x * 4 + 1) 0,
        b.pixels.getD (y * b.stride + x * 4 + 2) 0⟩ :=
  rfl

/-! ## Bits of a row -/

/-- The `j`-th bit of a row from the left, over all bytes of the stride. -/
def bitAt (b : Bitmap) (y j : Nat) : Bool :=
  bitOf (b.pixels.getD (y * b.stride + j / 8) 0) (j % 8)

theorem bitAt_byte (b : Bitmap) (y n : Nat) {k : Nat} (hk : k < 8) :
    b.bitAt y (n * 8 + k) = bitOf (b.pixels.getD (y * b.stride + n) 0) k := by
  rw [bitAt, show (n * 8 + k) / 8 = n by omega, show (n * 8 + k) % 8 = k by omega]

/-- Two pixels store the same value when their value bits agree. -/
theorem stored_eq_iff_bits {a b : Bitmap} (depth : a.depth = b.depth) {x y x' y' : Nat} :
    a.stored x y = b.stored x' y' ↔ ∀ m < b.depth.valueBits,
      a.bitAt y (x * b.depth.bits + m) = b.bitAt y' (x' * b.depth.bits + m) := by
  cases b_depth : b.depth with
  | mono1 =>
    rw [stored_mono1 (depth.trans b_depth), stored_mono1 b_depth]
    simp only [Depth.valueBits, Depth.bits, Nat.lt_one_iff, forall_eq, Nat.mul_one, Nat.add_zero]
    change _ ↔ bitOf _ _ = bitOf _ _
    cases bitOf (a.pixels.getD (y * a.stride + x / 8) 0) (x % 8) <;>
      cases bitOf (b.pixels.getD (y' * b.stride + x' / 8) 0) (x' % 8) <;> simp
  | indexed8 =>
    rw [stored_indexed8 (depth.trans b_depth), stored_indexed8 b_depth, Sum.inl.injEq, byte_eq_iff]
    refine forall_congr' fun k => forall_congr' fun hk => ?_
    rw [Depth.bits, bitAt_byte _ _ _ hk, bitAt_byte _ _ _ hk]
  | trueColor32 =>
    have channel (c k : Nat) (hk : k < 8) (i : Bitmap) (x y : Nat) :
        i.bitAt y (x * 32 + (c * 8 + k)) = bitOf (i.pixels.getD (y * i.stride + x * 4 + c) 0) k := by
      rw [show x * 32 + (c * 8 + k) = (x * 4 + c) * 8 + k by omega, bitAt_byte _ _ _ hk,
        Nat.add_assoc]
    rw [stored_trueColor32 (depth.trans b_depth), stored_trueColor32 b_depth, Sum.inr.injEq,
      readTexel_eq, readTexel_eq, Color.mk.injEq, byte_eq_iff, byte_eq_iff, byte_eq_iff]
    simp only [Depth.valueBits, Depth.bits]
    constructor
    · rintro ⟨red, green, blue⟩ m hm
      have hk : m % 8 < 8 := Nat.mod_lt _ (by decide)
      rw [show m = m / 8 * 8 + m % 8 by omega, channel _ _ hk, channel _ _ hk]
      have hc : m / 8 < 3 := by omega
      generalize m / 8 = c at hc
      interval_cases c
      · exact red _ hk
      · exact green _ hk
      · exact blue _ hk
    · intro bits
      refine ⟨?_, ?_, ?_⟩
      · intro k hk
        rw [← channel 0 k hk, ← channel 0 k hk]
        exact bits _ (by omega)
      · intro k hk
        rw [← channel 1 k hk, ← channel 1 k hk]
        exact bits _ (by omega)
      · intro k hk
        rw [← channel 2 k hk, ← channel 2 k hk]
        exact bits _ (by omega)

/-! ## Writes -/

theorem bitOf_writeBit (byte index : UInt8) (x : Nat) {k : Nat} (hk : k < 8) :
    bitOf (if index &&& 1 = 0 then byte &&& ~~~bitMask x else byte ||| bitMask x) k =
      if k = x % 8 then decide (index &&& 1 ≠ 0) else bitOf byte k := by
  have mask := bitOf_bitMask x hk
  unfold bitOf at mask ⊢
  by_cases zero : index &&& 1 = 0
  · rw [if_pos zero, UInt8.toBitVec_and, UInt8.toBitVec_not, BitVec.getMsbD_and,
      BitVec.getMsbD_not, mask]
    by_cases same : k = x % 8 <;> simp [same, zero, hk]
  · rw [if_neg zero, UInt8.toBitVec_or, BitVec.getMsbD_or, mask]
    by_cases same : k = x % 8 <;> simp [same, zero]

theorem and_one_eq_ite (i : UInt8) : i &&& 1 = if i &&& 1 ≠ 0 then 1 else 0 := by
  rw [and_one]
  split <;> rfl

/-- Writing an index changes the view at its own pixel only. -/
theorem stored_writeIndex {b : Bitmap} (wf : b.WellFormed) (indexed : b.depth.isIndexed)
    {x y : Nat} (hx : x < b.size.x.toNat) (hy : y < b.size.y.toNat) (i : UInt8) {x' y' : Nat}
    (hx' : x' < b.size.x.toNat) :
    (b.writeIndex x y i).stored x' y' =
      if x' = x ∧ y' = y then .inl (b.depth.kept i) else b.stored x' y' := by
  have shape := sameShape_writeIndex b x y i
  cases depth : b.depth with
  | mono1 =>
    have column := column_lt_stride_mono1 depth hx
    have column' := column_lt_stride_mono1 depth hx'
    have inside := address_lt hy column wf.bytes
    have byte : (b.writeIndex x y i).pixels.getD (y' * b.stride + x' / 8) 0 =
        if y' = y ∧ x' / 8 = x / 8 then
          (if i &&& 1 = 0 then b.pixels.getD (y * b.stride + x / 8) 0 &&& ~~~bitMask x
            else b.pixels.getD (y * b.stride + x / 8) 0 ||| bitMask x)
        else b.pixels.getD (y' * b.stride + x' / 8) 0 := by
      simp only [writeIndex, depth, getD_setIfInBounds, address_inj column' column]
      by_cases same : y' = y ∧ x' / 8 = x / 8
      · simp only [same, and_self, if_true, inside]
      · simp only [same, false_and, if_false]
    rw [stored_mono1 (shape.depth.trans depth), stored_mono1 depth, shape.stride, byte]
    by_cases same : y' = y ∧ x' / 8 = x / 8
    · rw [if_pos same, bitOf_writeBit _ _ _ (Nat.mod_lt _ (by decide))]
      by_cases pixel : x' % 8 = x % 8
      · have equal : x' = x := by omega
        have here : x' = x ∧ y' = y := ⟨equal, same.1⟩
        rw [if_pos pixel, if_pos here, Depth.kept, if_pos rfl, and_one_eq_ite i]
        simp
      · have elsewhere : ¬(x' = x ∧ y' = y) := fun both => pixel (by rw [both.1])
        rw [if_neg pixel, if_neg elsewhere, same.1, same.2]
    · have elsewhere : ¬(x' = x ∧ y' = y) := fun both => same ⟨both.2, by rw [both.1]⟩
      rw [if_neg same, if_neg elsewhere]
  | indexed8 =>
    have column := column_lt_stride_indexed8 depth hx
    have column' := column_lt_stride_indexed8 depth hx'
    have inside := address_lt hy column wf.bytes
    rw [stored_indexed8 (shape.depth.trans depth), stored_indexed8 depth, shape.stride]
    simp only [writeIndex, depth, getD_setIfInBounds, address_inj column' column]
    by_cases same : x' = x ∧ y' = y
    · rw [same.1, same.2]
      simp [inside, Depth.kept]
    · rw [if_neg (fun both => same ⟨both.1.2, both.1.1⟩), if_neg same]
  | trueColor32 => simp [depth, Depth.isIndexed] at indexed

/-- Writing a colour changes the view at its own pixel only. -/
theorem stored_writeTexel {b : Bitmap} (wf : b.WellFormed) (depth : b.depth = .trueColor32)
    {x y : Nat} (hx : x < b.size.x.toNat) (hy : y < b.size.y.toNat) (c : Color) {x' y' : Nat}
    (hx' : x' < b.size.x.toNat) :
    (b.writeTexel x y c).stored x' y' =
      if x' = x ∧ y' = y then .inr c else b.stored x' y' := by
  have shape := sameShape_writeTexel b x y c
  have column := column_le_stride_trueColor32 depth hx
  have column' := column_le_stride_trueColor32 depth hx'
  have inside := address_lt hy (show x * 4 + 3 < b.stride by omega) wf.bytes
  have byte (k : Nat) (hk : k < 4) :
      (b.writeTexel x y c).pixels.getD (y' * b.stride + x' * 4 + k) 0 =
        if x' = x ∧ y' = y then (texelBytes c).getD k 0
        else b.pixels.getD (y' * b.stride + x' * 4 + k) 0 := by
    simp only [writeTexel, getD_writeRun]
    by_cases same : x' = x ∧ y' = y
    · rw [same.1, same.2, if_pos ⟨by omega, by simp [texelBytes]; omega, by omega⟩,
        if_pos ⟨rfl, rfl⟩]
      congr 1
      omega
    · rw [if_neg, if_neg same]
      rintro ⟨start, stop, -⟩
      simp only [texelBytes, List.length_cons, List.length_nil] at stop
      rcases Nat.lt_trichotomy y' y with lt | equal | lt
      · have := row_end_le lt column'
        omega
      · refine same ⟨?_, equal⟩
        rw [equal] at start stop
        omega
      · have := row_end_le lt column
        omega
  rw [stored_trueColor32 (shape.depth.trans depth), stored_trueColor32 depth, readTexel_eq,
    shape.stride, byte 0 (by decide), byte 1 (by decide), byte 2 (by decide)]
  by_cases same : x' = x ∧ y' = y
  · rw [if_pos same]
    simp only [if_pos same]
    rfl
  · simp only [if_neg same]
    rfl

end Bitmap

end TileEngine
