import TileEngine.Proofs.Bitmap.Store
import TileEngine.Proofs.Geometry.Clip

/-!
Copies of rows as bytes. Between two bitmaps of one depth a clipped rectangle is
copied row by row, and for single-bit pixels under a mask at the right edge. In
the view of stored values each pixel of the target has the value of its source
pixel, and every other pixel keeps its own.
-/

namespace TileEngine

namespace Span

/-- The mask of a span inside row `y'`, at the byte in column `k` of row `y`: no
bit of any other row is written. -/
theorem maskFrom_row (s : Span) {stride column y y' k : Nat}
    (fits : column + s.length + (if s.tail = 0 then 0 else 1) ≤ stride) (hk : k < stride) :
    s.maskFrom (y' * stride + column) (y * stride + k) =
      if y = y' then s.maskFrom column k else 0 := by
  rcases Nat.lt_trichotomy y y' with lt | rfl | lt
  · have := row_end_le lt (show k + 1 ≤ stride from hk)
    rw [if_neg (by omega), maskFrom, if_pos (by omega)]
  · rw [if_pos rfl, maskFrom, maskFrom]
    refine if_congr (by omega) rfl (if_congr (by omega) rfl (if_congr (by omega) rfl rfl))
  · rw [if_neg (by omega), maskFrom]
    have := row_end_le lt fits
    split at this
    · rename_i zero
      rw [if_neg (by omega), if_neg (by omega), zero, ite_self]
    · rw [if_neg (by omega), if_neg (by omega), if_neg (by omega)]

/-- A span copied into one row, at any byte of any row. -/
theorem getD_copy_row (source target : Array UInt8) (s : Span) {stride column y y' k : Nat}
    (start : s.target = y' * stride + column)
    (fits : column + s.length + (if s.tail = 0 then 0 else 1) ≤ stride) (hk : k < stride)
    (inside : y * stride + k < target.size) :
    (copy source target s).getD (y * stride + k) 0 =
      if y = y' then
        target.getD (y * stride + k) 0 &&& ~~~s.maskFrom column k |||
          source.getD (s.source + (k - column)) 0 &&& s.maskFrom column k
      else target.getD (y * stride + k) 0 := by
  rw [getD_copy _ _ _ inside, start, maskFrom_row s fits hk]
  by_cases same : y = y'
  · rw [if_pos same, if_pos same, same, Nat.add_sub_add_left]
  · rw [if_neg same, if_neg same, merge_none]

/-- The span of a row in bits: it starts at the bits of its first pixels and is as
long as the bits of its pixels. -/
theorem ofRow_eq (depth : Depth) (sourceStride targetStride : Nat) (r : Rect) (p : Vec2) (row : Nat) :
    ofRow depth sourceStride targetStride r p row =
      ⟨(r.origin.y.toNat + row) * sourceStride + r.origin.x.toNat * depth.bits / 8,
        (p.y.toNat + row) * targetStride + p.x.toNat * depth.bits / 8,
        r.size.x.toNat * depth.bits / 8, tailMask (r.size.x.toNat * depth.bits)⟩ := by
  cases depth with
  | mono1 => simp [ofRow, Depth.bits]
  | indexed8 => simp [ofRow, Depth.bits, tailMask]
  | trueColor32 =>
    have whole : tailMask (r.size.x.toNat * 32) = 0 := by rw [tailMask, if_pos (by omega)]
    simp only [ofRow, Depth.bits, mk.injEq, whole]
    refine ⟨by omega, by omega, by omega, trivial⟩

/-- A span that starts at a byte covers the bits of its pixels. -/
theorem bitOf_maskFrom {s : Span} {start width j : Nat} (length : s.length = width / 8)
    (tail : s.tail = tailMask width) (aligned : start % 8 = 0) :
    Bitmap.bitOf (s.maskFrom (start / 8) (j / 8)) (j % 8) = decide (start ≤ j ∧ j < start + width) := by
  have hk : j % 8 < 8 := Nat.mod_lt _ (by decide)
  unfold maskFrom
  by_cases before : j / 8 < start / 8
  · rw [if_pos before, Bitmap.bitOf_zero]
    exact (decide_eq_false (by omega)).symm
  · by_cases covered : j / 8 < start / 8 + s.length
    · rw [if_neg before, if_pos covered, Bitmap.bitOf_all hk]
      exact (decide_eq_true (by omega)).symm
    · by_cases last : j / 8 = start / 8 + s.length
      · rw [if_neg before, if_neg covered, if_pos last, tail, Bitmap.bitOf_tailMask _ hk]
        refine decide_eq_decide.mpr ?_
        omega
      · rw [if_neg before, if_neg covered, if_neg last, Bitmap.bitOf_zero]
        exact (decide_eq_false (by omega)).symm

end Span

namespace Bitmap

/-- A copy of rows is possible: one depth, a rectangle inside both bitmaps, and
single-bit pixels that start at a byte in both. -/
structure RowsFit (dst src : Bitmap) (c : Rect) (p : Vec2) : Prop
    extends Rect.Placed src.size dst.size c p where
  depth : src.depth = dst.depth
  aligned : dst.depth = .mono1 → c.origin.x.toNat % 8 = 0 ∧ p.x.toNat % 8 = 0

theorem RowsFit.of_trueColor32 {dst src : Bitmap} {c : Rect} {p : Vec2}
    (placed : Rect.Placed src.size dst.size c p) (target : dst.depth = .trueColor32)
    (source : src.depth = .trueColor32) : RowsFit dst src c p := by
  refine ⟨placed, source.trans target.symm, ?_⟩
  rw [target]
  intro mono
  contradiction

/-- One row of a copy. -/
def copyRow (dst src : Bitmap) (c : Rect) (p : Vec2) (b : Bitmap) (row : Nat) : Bitmap :=
  { b with
    pixels := Span.copy src.pixels b.pixels (Span.ofRow dst.depth src.stride dst.stride c p row) }

theorem copyRows_eq_foldl (dst src : Bitmap) (c : Rect) (p : Vec2) :
    dst.copyRows src c p =
      (List.range c.size.y.toNat).reverse.foldl (copyRow dst src c p) dst := by
  have general (rows : List Nat) (b : Bitmap) :
      { b with
        pixels := (rows.map (Span.ofRow dst.depth src.stride dst.stride c p)).foldl
          (Span.copy src.pixels) b.pixels } = rows.foldl (copyRow dst src c p) b := by
    induction rows generalizing b with
    | nil => rfl
    | cons row rest ih => exact ih (copyRow dst src c p b row)
  exact general _ dst

theorem sameShape_copyRow (dst src : Bitmap) (c : Rect) (p : Vec2) (b : Bitmap) (row : Nat) :
    SameShape (copyRow dst src c p b row) b :=
  SameShape.of_pixels b (Span.size_copy _ _ _)

/-- The columns and the row of the target that a row of a copy writes. -/
def WritesTo (c : Rect) (p : Vec2) (row x y : Nat) : Prop :=
  y = p.y.toNat + row ∧ p.x.toNat ≤ x ∧ x < p.x.toNat + c.size.x.toNat

instance (c : Rect) (p : Vec2) (row x y : Nat) : Decidable (WritesTo c p row x y) :=
  inferInstanceAs (Decidable (_ ∧ _ ∧ _))

section rows

variable {dst src b : Bitmap} {c : Rect} {p : Vec2} {row x y j : Nat}

/-- Pixels that start at a byte, counted in bits. -/
theorem aligned_bits {depth : Depth} {x : Nat} (aligned : depth = .mono1 → x % 8 = 0) :
    x * depth.bits % 8 = 0 := by
  cases depth with
  | mono1 => rw [Depth.bits, Nat.mul_one, aligned rfl]
  | indexed8 => rw [Depth.bits]; omega
  | trueColor32 => rw [Depth.bits]; omega

/-- The bytes that hold the bits of a row of pixels are inside the stride. -/
theorem row_fits {depth : Depth} {width : UInt16} {start extent : Nat}
    (fits : start + extent ≤ width.toNat) (aligned : start * depth.bits % 8 = 0) :
    start * depth.bits / 8 + extent * depth.bits / 8 +
      (if Span.tailMask (extent * depth.bits) = 0 then 0 else 1) ≤ depth.stride width := by
  have bits : start * depth.bits + extent * depth.bits ≤ width.toNat * depth.bits := by
    rw [← Nat.add_mul]
    exact Nat.mul_le_mul_right _ fits
  unfold Depth.stride
  by_cases whole : extent * depth.bits % 8 = 0
  · rw [Span.tailMask, if_pos whole, if_pos rfl]
    omega
  · split <;> omega

/-- One row of a copy moves the bits of its pixels and no others. -/
theorem bitAt_copyRow (fit : RowsFit dst src c p) (wf : b.WellFormed) (shape : SameShape b dst)
    (hy : y < dst.size.y.toNat) (hj : j < 8 * dst.stride) :
    (copyRow dst src c p b row).bitAt y j =
      if y = p.y.toNat + row ∧ p.x.toNat * dst.depth.bits ≤ j ∧
          j < p.x.toNat * dst.depth.bits + c.size.x.toNat * dst.depth.bits then
        src.bitAt (c.origin.y.toNat + row)
          (c.origin.x.toNat * dst.depth.bits + (j - p.x.toNat * dst.depth.bits))
      else b.bitAt y j := by
  have source := aligned_bits (fun mono => (fit.aligned mono).1)
  have target := aligned_bits (fun mono => (fit.aligned mono).2)
  have hk : j % 8 < 8 := Nat.mod_lt _ (by decide)
  have column : j / 8 < dst.stride := by omega
  have inside := address_lt (shape.size ▸ hy) (shape.stride ▸ column) wf.bytes
  rw [shape.stride] at inside
  rw [bitAt, (sameShape_copyRow dst src c p b row).stride, shape.stride, copyRow, Span.ofRow_eq,
    Span.getD_copy_row _ _ _ rfl (row_fits fit.target_x target) column inside]
  dsimp only
  by_cases same : y = p.y.toNat + row
  · rw [if_pos same, bitOf_merge _ _ _ hk, Span.bitOf_maskFrom rfl rfl target]
    by_cases covered : p.x.toNat * dst.depth.bits ≤ j ∧
        j < p.x.toNat * dst.depth.bits + c.size.x.toNat * dst.depth.bits
    · have byte : (c.origin.x.toNat * dst.depth.bits + (j - p.x.toNat * dst.depth.bits)) / 8 =
          c.origin.x.toNat * dst.depth.bits / 8 + (j / 8 - p.x.toNat * dst.depth.bits / 8) := by
        omega
      have bit : (c.origin.x.toNat * dst.depth.bits + (j - p.x.toNat * dst.depth.bits)) % 8 =
          j % 8 := by
        omega
      rw [if_pos (decide_eq_true covered), if_pos ⟨same, covered⟩, bitAt, byte, bit, Nat.add_assoc]
    · rw [decide_eq_false covered, if_neg Bool.false_ne_true, if_neg (fun here => covered here.2), bitAt,
        shape.stride]
  · rw [if_neg same, if_neg (fun here => same here.1), bitAt, shape.stride]

/-- One row of a copy writes its own pixels and no others. -/
theorem stored_copyRow (fit : RowsFit dst src c p) (wf : b.WellFormed) (shape : SameShape b dst)
    (hx : x < dst.size.x.toNat) (hy : y < dst.size.y.toNat) :
    (copyRow dst src c p b row).stored x y =
      if WritesTo c p row x y then
        src.stored (c.origin.x.toNat + (x - p.x.toNat)) (c.origin.y.toNat + row)
      else b.stored x y := by
  have copied := sameShape_copyRow dst src c p b row
  have inside (m : Nat) (hm : m < dst.depth.valueBits) := Depth.bit_lt_stride hx hm
  split
  · rename_i here
    obtain ⟨same, left, right⟩ := here
    rw [stored_eq_iff_bits (copied.depth.trans (shape.depth.trans fit.depth.symm)), fit.depth]
    intro m hm
    rw [bitAt_copyRow fit wf shape hy (inside m hm), if_pos]
    · congr 1
      cases depth : dst.depth <;> simp only [Depth.bits] <;> omega
    · refine ⟨same, ?_⟩
      cases depth : dst.depth <;> simp only [depth, Depth.valueBits, Depth.bits] at hm ⊢ <;> omega
  · rename_i elsewhere
    rw [stored_eq_iff_bits copied.depth, shape.depth]
    intro m hm
    rw [bitAt_copyRow fit wf shape hy (inside m hm), if_neg]
    rintro ⟨same, left, right⟩
    refine elsewhere ⟨same, ?_⟩
    cases depth : dst.depth <;> simp only [depth, Depth.valueBits, Depth.bits] at hm left right <;> omega

theorem sameShape_copyRows (dst src : Bitmap) (c : Rect) (p : Vec2) :
    SameShape (dst.copyRows src c p) dst := by
  rw [copyRows_eq_foldl]
  refine List.foldlRecOn (motive := (SameShape · dst)) _ _ (SameShape.refl dst) fun b hb row _ => ?_
  exact (sameShape_copyRow dst src c p b row).trans hb

/-- A copy of rows gives each pixel of the target what its source pixel stores,
and leaves every other pixel alone. -/
theorem stored_copyRows (fit : RowsFit dst src c p) (wf : dst.WellFormed)
    (hx : x < dst.size.x.toNat) (hy : y < dst.size.y.toNat) :
    (dst.copyRows src c p).stored x y =
      if Rect.Covers p c.size x y then
        src.stored (c.origin.x.toNat + (x - p.x.toNat)) (c.origin.y.toNat + (y - p.y.toNat))
      else dst.stored x y := by
  have read := foldl_read (copyRow dst src c p) (fun b => b.stored x y) (SameShape · dst)
    (fun row => WritesTo c p row x y)
    (src.stored (c.origin.x.toNat + (x - p.x.toNat)) (c.origin.y.toNat + (y - p.y.toNat)))
    (List.range c.size.y.toNat).reverse
    (fun row _ b hb => (sameShape_copyRow dst src c p b row).trans hb)
    (fun row _ b hb here => by
      rw [stored_copyRow fit (hb.wellFormed wf) hb hx hy, if_pos here, here.1,
        Nat.add_sub_cancel_left])
    (fun row _ b hb elsewhere => by
      rw [stored_copyRow fit (hb.wellFormed wf) hb hx hy, if_neg elsewhere])
    dst (SameShape.refl dst)
  rw [copyRows_eq_foldl]
  by_cases covered : Rect.Covers p c.size x y
  · rw [if_pos covered]
    obtain ⟨left, top, right, bottom⟩ := covered
    refine read.1 ⟨y - p.y.toNat, ?_, ?_⟩
    · simp only [List.mem_reverse, List.mem_range]
      omega
    · exact ⟨by omega, left, right⟩
  · rw [if_neg covered]
    refine read.2 ?_
    rintro ⟨row, hrow, here⟩
    obtain ⟨same, left, right⟩ := here
    simp only [List.mem_reverse, List.mem_range] at hrow
    exact covered ⟨left, by omega, right, by omega⟩

end rows

end Bitmap

end TileEngine
