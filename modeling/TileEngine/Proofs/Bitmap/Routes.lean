import TileEngine.Proofs.Bitmap.Conversion
import TileEngine.Proofs.Bitmap.RowCopy

/-!
Stored values on every route of a copy, whatever the palettes are and whatever
the pixels store. A copy of rows moves values; a conversion, and the detour of an
indexed destination by way of true colour, store the encoding of the colour that a
value shows. So a pixel outside the target keeps its value or has it settled
(`Settles`), and a pixel of the target has its source value, settled, or the
encoding of its source colour (`Brought`).
-/

namespace TileEngine

namespace Bitmap

/-- Depth and palette agree, so stored values mean the same in both bitmaps. -/
structure SameColors (a b : Bitmap) : Prop where
  depth : a.depth = b.depth
  active : a.effectivePalette.active = b.effectivePalette.active

namespace SameColors

variable {a b : Bitmap}

theorem of_same (depth : a.depth = b.depth) (palette : a.palette.same b.palette = true) :
    SameColors a b := by
  refine ⟨depth, ?_⟩
  have active := Palette.same_iff.mp palette
  have empty : a.palette.isEmpty = b.palette.isEmpty := by
    rw [Palette.isEmpty, Palette.isEmpty, Palette.len_eq_of_active active]
  rw [effectivePalette, effectivePalette, depth, empty]
  split
  · rfl
  · exact active

theorem of_shape (h : SameShape a b) : SameColors a b :=
  ⟨h.depth, by rw [h.effectivePalette]⟩

theorem trans {c : Bitmap} (h : SameColors a b) (h' : SameColors b c) : SameColors a c :=
  ⟨h.depth.trans h'.depth, h.active.trans h'.active⟩

theorem decode (h : SameColors a b) : a.decode = b.decode := by
  funext v
  cases v with
  | inl i => simp only [Bitmap.decode, Palette.shown_eq_of_active h.active]
  | inr c => rfl

theorem encode (h : SameColors a b) : a.encode = b.encode := by
  funext c
  rw [Bitmap.encode, Bitmap.encode, h.depth, Palette.nearestIndex_eq_of_active h.active]

end SameColors

/-! ## Settling -/

/-- A pixel that stores `v` is left with `w`: with its value, or with the encoding
of the colour that its value shows. -/
def Settles (b : Bitmap) (v w : UInt8 ⊕ Color) : Prop :=
  w = v ∨ w = b.encode (b.decode v)

theorem SameColors.settles {a b : Bitmap} (h : SameColors a b) : a.Settles = b.Settles := by
  funext v w
  rw [Settles, Settles, h.decode, h.encode]

/-- The encoding of a colour is settled: a second detour does not change it. -/
theorem encode_decode_encode (b : Bitmap) (c : Color) :
    b.encode (b.decode (b.encode c)) = b.encode c := by
  cases indexed : b.depth.isIndexed with
  | false => simp only [encode_trueColor32 (isIndexed_eq_false_iff.mp indexed), decode]
  | true =>
    simp only [encode_indexed indexed, decode, Sum.inl.injEq, ← UInt8.toNat_inj,
      Palette.toNat_nearestIndex]
    exact Palette.nearest_shown_nearest _ c

theorem Settles.of_encode {b : Bitmap} {c : Color} {w : UInt8 ⊕ Color}
    (h : b.Settles (b.encode c) w) : w = b.encode c := by
  rcases h with kept | settled
  · exact kept
  · rw [settled, encode_decode_encode]

/-! ## One copy of a clipped rectangle -/

/-- The value that a copy of a rectangle to `p` takes for the pixel at `x`, `y`. -/
def storedFrom (src : Bitmap) (c : Rect) (p : Vec2) (x y : Nat) : UInt8 ⊕ Color :=
  src.stored (c.origin.x.toNat + (x - p.x.toNat)) (c.origin.y.toNat + (y - p.y.toNat))

/-- The colour that a copy of a rectangle to `p` brings to the pixel at `x`, `y`. -/
def shownFrom (src : Bitmap) (c : Rect) (p : Vec2) (x y : Nat) : Color :=
  src.shownAt (c.origin.x.toNat + (x - p.x.toNat)) (c.origin.y.toNat + (y - p.y.toNat))

theorem decode_storedFrom (src : Bitmap) (c : Rect) (p : Vec2) (x y : Nat) :
    src.decode (src.storedFrom c p x y) = src.shownFrom c p x y :=
  rfl

section copies

variable {dst src : Bitmap} {c : Rect} {p : Vec2} {x y : Nat}

/-- The source of a covered pixel lies inside the source. -/
theorem source_inside (placed : Rect.Placed src.size dst.size c p)
    (covered : Rect.Covers p c.size x y) :
    c.origin.x.toNat + (x - p.x.toNat) < src.size.x.toNat ∧
      c.origin.y.toNat + (y - p.y.toNat) < src.size.y.toNat := by
  obtain ⟨left, top, right, bottom⟩ := covered
  have := placed.source_x
  have := placed.source_y
  omega

theorem sameShape_convert_trueColor32 {b : Bitmap} (wf : b.WellFormed) (palette : Palette) :
    SameShape (b.convertInto .trueColor32 palette) (blank b.size .trueColor32 palette) :=
  sameShape_convertInto wf palette.len_le

theorem stored_convert_trueColor32 (b : Bitmap) (palette : Palette) {x y : Nat}
    (hx : x < b.size.x.toNat) (hy : y < b.size.y.toNat) :
    (b.convertInto .trueColor32 palette).stored x y = .inr (b.shownAt x y) := by
  rw [stored_convertInto palette.len_le hx hy, encode_trueColor32 rfl]

/-- A write onto true colour stores the source colours themselves. -/
theorem stored_overlay (wf : dst.WellFormed) (src_wf : src.WellFormed)
    (depth : dst.depth = .trueColor32) (placed : Rect.Placed src.size dst.size c p)
    (hx : x < dst.size.x.toNat) (hy : y < dst.size.y.toNat) :
    (dst.overlay src c p).stored x y =
      if Rect.Covers p c.size x y then .inr (src.shownFrom c p x y) else dst.stored x y := by
  unfold overlay
  split
  · rename_i src_depth
    rw [stored_copyRows (RowsFit.of_trueColor32 placed depth src_depth) wf hx hy, shownFrom,
      shownAt_trueColor32 src_depth, stored_trueColor32 src_depth]
  · have shape := sameShape_convert_trueColor32 src_wf dst.palette
    have fit := RowsFit.of_trueColor32 (shape.size ▸ placed) depth shape.depth
    rw [stored_copyRows fit wf hx hy]
    by_cases covered : Rect.Covers p c.size x y
    · obtain ⟨column, row⟩ := source_inside placed covered
      rw [if_pos covered, if_pos covered, stored_convert_trueColor32 src _ column row, shownFrom]
    · rw [if_neg covered, if_neg covered]

theorem sameShape_overlay (dst src : Bitmap) (c : Rect) (p : Vec2) :
    SameShape (dst.overlay src c p) dst := by
  unfold overlay
  split
  · exact sameShape_copyRows dst _ c p
  · exact sameShape_copyRows dst _ c p

theorem sameShape_blank {b : Bitmap} (wf : b.WellFormed) :
    SameShape (blank b.size b.depth b.palette) b :=
  ⟨rfl, rfl, rfl, by rw [(wellFormed_blank b.size wf.palette_fits).bytes, wf.bytes]; rfl⟩

/-- The destination in true colour, with the rectangle drawn. -/
def drawn (dst src : Bitmap) (c : Rect) (p : Vec2) : Bitmap :=
  (dst.convertInto .trueColor32 dst.palette).overlay src c p

theorem sameShape_drawn (wf : dst.WellFormed) (src : Bitmap) (c : Rect) (p : Vec2) :
    SameShape (dst.drawn src c p) (blank dst.size .trueColor32 dst.palette) :=
  (sameShape_overlay _ src c p).trans (sameShape_convertInto wf dst.palette.len_le)

theorem shownAt_drawn (wf : dst.WellFormed) (src_wf : src.WellFormed)
    (placed : Rect.Placed src.size dst.size c p) (hx : x < dst.size.x.toNat)
    (hy : y < dst.size.y.toNat) :
    (dst.drawn src c p).shownAt x y =
      if Rect.Covers p c.size x y then src.shownFrom c p x y else dst.shownAt x y := by
  have shape := sameShape_convert_trueColor32 wf dst.palette
  have wide_wf := shape.wellFormed (wellFormed_blank dst.size dst.palette.len_le)
  have size : (dst.convertInto .trueColor32 dst.palette).size = dst.size := shape.size
  rw [← size] at placed
  rw [drawn, shownAt, stored_overlay wide_wf src_wf shape.depth placed (size.symm ▸ hx)
    (size.symm ▸ hy), stored_convert_trueColor32 dst _ hx hy]
  split
  · rfl
  · rfl

/-- The detour is a conversion of what was drawn back into the destination's depth. -/
theorem overlayStaged_eq (wf : dst.WellFormed) (src : Bitmap) (c : Rect) (p : Vec2) :
    SameShape (dst.overlayStaged src c p) dst ∧
      dst.overlayStaged src c p = (dst.drawn src c p).convertInto dst.depth dst.palette := by
  have shape := sameShape_drawn wf src c p
  have drawn_wf := shape.wellFormed (wellFormed_blank dst.size dst.palette.len_le)
  have back := sameShape_convertInto drawn_wf wf.palette_fits
  rw [shape.size] at back
  have restored := back.trans (sameShape_blank wf)
  refine ⟨SameShape.of_pixels dst restored.bytes, ?_⟩
  rw [overlayStaged, drawn]
  exact (Bitmap.mk.injEq ..).mpr
    ⟨restored.size.symm, restored.depth.symm, rfl, restored.palette.symm⟩

/-- The detour stores, for every pixel of the destination, the encoding of the
colour that the pixel has once the rectangle is drawn. -/
theorem stored_overlayStaged (wf : dst.WellFormed) (src_wf : src.WellFormed)
    (placed : Rect.Placed src.size dst.size c p) (hx : x < dst.size.x.toNat)
    (hy : y < dst.size.y.toNat) :
    (dst.overlayStaged src c p).stored x y =
      dst.encode (if Rect.Covers p c.size x y then src.shownFrom c p x y else dst.shownAt x y) := by
  have shape := sameShape_drawn wf src c p
  rw [(overlayStaged_eq wf src c p).2, stored_convertInto wf.palette_fits (by rw [shape.size]; exact hx)
    (by rw [shape.size]; exact hy), shownAt_drawn wf src_wf placed hx hy, shape.size]
  exact congrFun (sameShape_blank wf).encode _

theorem canFastCopy_palette (fast : dst.canFastCopy src c p = true) :
    dst.palette.same src.palette = true := by
  unfold canFastCopy at fast
  rw [Bool.and_eq_true] at fast
  exact fast.1

theorem canFastCopy_aligned (fast : dst.canFastCopy src c p = true) (mono : dst.depth = .mono1) :
    c.origin.x.toNat % 8 = 0 ∧ p.x.toNat % 8 = 0 := by
  unfold canFastCopy at fast
  simp only [mono, bne_self_eq_false, Bool.false_or, Bool.and_eq_true, beq_iff_eq] at fast
  exact fast.2.1

/-- A copy that takes the direct route has rows that fit. -/
theorem RowsFit.of_direct (placed : Rect.Placed src.size dst.size c p)
    (depth : src.depth = dst.depth)
    (direct : (dst.depth = .trueColor32 || dst.canFastCopy src c p) = true) :
    RowsFit dst src c p := by
  refine ⟨placed, depth, fun mono => ?_⟩
  rw [Bool.or_eq_true, decide_eq_true_eq, mono] at direct
  rcases direct with wide | fast
  · contradiction
  · exact canFastCopy_aligned fast mono

theorem sameShape_overlaySameDepth (wf : dst.WellFormed) (src : Bitmap) (c : Rect) (p : Vec2) :
    SameShape (dst.overlaySameDepth src c p) dst := by
  unfold overlaySameDepth
  split
  · exact sameShape_copyRows dst src c p
  · exact (overlayStaged_eq wf src c p).1

/-- Between bitmaps of the same colours a copy brings every pixel the value it is
meant to have, settled. -/
theorem settles_overlaySameDepth (wf : dst.WellFormed) (src_wf : src.WellFormed)
    (placed : Rect.Placed src.size dst.size c p) (colors : SameColors src dst)
    (hx : x < dst.size.x.toNat) (hy : y < dst.size.y.toNat) :
    dst.Settles (if Rect.Covers p c.size x y then src.storedFrom c p x y else dst.stored x y)
      ((dst.overlaySameDepth src c p).stored x y) := by
  rw [overlaySameDepth]
  by_cases direct : (dst.depth = .trueColor32 || dst.canFastCopy src c p) = true
  · left
    rw [if_pos direct, stored_copyRows (RowsFit.of_direct placed colors.depth direct) wf hx hy]
    rfl
  · right
    rw [if_neg direct, stored_overlayStaged wf src_wf placed hx hy]
    by_cases covered : Rect.Covers p c.size x y
    · rw [if_pos covered, if_pos covered, ← colors.decode, decode_storedFrom]
    · rw [if_neg covered, if_neg covered]
      rfl

end copies

/-! ## A rectangle as a bitmap of its own -/

section region

variable {b : Bitmap} {r : Rect}

/-- A region is a copy of the clamped rectangle onto a bitmap of its extent. -/
theorem cloneRegion_eq (b : Bitmap) (r : Rect) :
    b.cloneRegion r =
      if (r.clampedTo b.size).size.x = 0 ∨ (r.clampedTo b.size).size.y = 0 then
        blank (r.clampedTo b.size).size b.depth b.palette
      else
        (blank (r.clampedTo b.size).size b.depth b.palette).overlaySameDepth b
          (r.clampedTo b.size) Vec2.zero := by
  have clipped := Rect.clip_whole (r.clampedTo_fits b.size).1 (r.clampedTo_fits b.size).2
  unfold cloneRegion
  dsimp only
  rw [show (blank (r.clampedTo b.size).size b.depth b.palette).size = (r.clampedTo b.size).size from rfl,
    clipped]
  by_cases empty : (r.clampedTo b.size).size.x = 0 ∨ (r.clampedTo b.size).size.y = 0
  · rw [if_pos empty, if_pos empty]
  · rw [if_neg empty, if_neg empty]

theorem sameShape_cloneRegion (wf : b.WellFormed) (r : Rect) :
    SameShape (b.cloneRegion r) (blank (r.clampedTo b.size).size b.depth b.palette) := by
  rw [cloneRegion_eq]
  split
  · exact SameShape.refl _
  · exact sameShape_overlaySameDepth (wellFormed_blank _ wf.palette_fits) b _ _

theorem placed_region (b : Bitmap) (r : Rect) :
    Rect.Placed b.size (r.clampedTo b.size).size (r.clampedTo b.size) Vec2.zero := by
  obtain ⟨left, top⟩ := r.clampedTo_fits b.size
  exact ⟨left, top, by simp [Vec2.zero], by simp [Vec2.zero]⟩

/-- A region stores what its rectangle stores, settled. -/
theorem settles_cloneRegion (wf : b.WellFormed) (r : Rect) {x y : Nat}
    (hx : x < (r.clampedTo b.size).size.x.toNat) (hy : y < (r.clampedTo b.size).size.y.toNat) :
    b.Settles
      (b.stored ((r.clampedTo b.size).origin.x.toNat + x) ((r.clampedTo b.size).origin.y.toNat + y))
      ((b.cloneRegion r).stored x y) := by
  have covered : Rect.Covers Vec2.zero (r.clampedTo b.size).size x y := by
    simp [Rect.Covers, Vec2.zero, hx, hy]
  have colors : SameColors b (blank (r.clampedTo b.size).size b.depth b.palette) := ⟨rfl, rfl⟩
  have inhabited : ¬((r.clampedTo b.size).size.x = 0 ∨ (r.clampedTo b.size).size.y = 0) := by
    rintro (zero | zero)
    · rw [zero] at hx
      exact Nat.not_lt_zero x hx
    · rw [zero] at hy
      exact Nat.not_lt_zero y hy
  have settled := settles_overlaySameDepth (wellFormed_blank (r.clampedTo b.size).size wf.palette_fits)
    wf (placed_region b r) colors hx hy
  rw [if_pos covered] at settled
  rw [cloneRegion_eq, if_neg inhabited, colors.settles]
  exact settled

end region

/-! ## Any depths -/

section blit

variable {dst src : Bitmap} {c r : Rect} {p : Vec2} {x y : Nat}

/-- A conversion to the colours of another bitmap stores what that bitmap makes of
the colours shown. -/
theorem convertInto_colors {b : Bitmap} (wf : b.WellFormed) (dst_wf : dst.WellFormed) :
    (b.convertInto dst.depth dst.palette).WellFormed ∧
      SameColors (b.convertInto dst.depth dst.palette) dst ∧
      ∀ x < b.size.x.toNat, ∀ y < b.size.y.toNat,
        (b.convertInto dst.depth dst.palette).stored x y = dst.encode (b.shownAt x y) := by
  have shape := sameShape_convertInto wf dst_wf.palette_fits
  have blank_colors : SameColors (blank b.size dst.depth dst.palette) dst := ⟨rfl, rfl⟩
  refine ⟨shape.wellFormed (wellFormed_blank _ dst_wf.palette_fits),
    (SameColors.of_shape shape).trans blank_colors, ?_⟩
  intro x hx y hy
  rw [stored_convertInto dst_wf.palette_fits hx hy, blank_colors.encode]

/-- A source in the colours of the destination that stands in for another one: its
rectangle stores what the destination makes of the other's colours, which may have
been settled on the way. -/
structure StandsFor (dst source : Bitmap) (r : Rect) (src : Bitmap) (c : Rect) (p : Vec2) :
    Prop where
  wellFormed : source.WellFormed
  colors : SameColors source dst
  placed : Rect.Placed source.size dst.size r p
  extent : r.size = c.size
  stored : ∀ x y, Rect.Covers p c.size x y → ∃ v, src.Settles (src.storedFrom c p x y) v ∧
    source.storedFrom r p x y = dst.encode (src.decode v)

/-- The whole source or its rectangle, converted, stands for the source. -/
theorem standsFor_recoded (wf : dst.WellFormed) (src_wf : src.WellFormed)
    (placed : Rect.Placed src.size dst.size c p) :
    StandsFor dst (dst.recoded src c).1 (dst.recoded src c).2 src c p := by
  unfold recoded
  split
  · have shape := sameShape_convertInto src_wf wf.palette_fits
    obtain ⟨converted_wf, colors, stored⟩ := convertInto_colors src_wf wf
    refine ⟨converted_wf, colors, ?_, rfl, ?_⟩
    · rw [shape.size]
      exact placed
    · intro x y covered
      obtain ⟨column, row⟩ := source_inside placed covered
      exact ⟨_, .inl rfl, stored _ column _ row⟩
  · have clamped := Rect.clampedTo_of_fits placed.source_x placed.source_y
    have region_shape := sameShape_cloneRegion src_wf c
    have settled (x y : Nat) := settles_cloneRegion (x := x) (y := y) src_wf c
    rw [clamped] at region_shape settled
    have region_wf := region_shape.wellFormed (wellFormed_blank c.size src_wf.palette_fits)
    have region_size : (src.cloneRegion c).size = c.size := region_shape.size
    have region_colors : SameColors (src.cloneRegion c) src :=
      (SameColors.of_shape region_shape).trans ⟨rfl, rfl⟩
    have shape := sameShape_convertInto region_wf wf.palette_fits
    have size : ((src.cloneRegion c).convertInto dst.depth dst.palette).size = c.size :=
      shape.size.trans region_size
    obtain ⟨converted_wf, colors, stored⟩ := convertInto_colors region_wf wf
    refine ⟨converted_wf, colors, ?_, size, ?_⟩
    · refine ⟨?_, ?_, ?_, ?_⟩
      · simp [bounds, Rect.ofSize, Vec2.zero]
      · simp [bounds, Rect.ofSize, Vec2.zero]
      · simpa only [bounds, Rect.ofSize, size] using placed.target_x
      · simpa only [bounds, Rect.ofSize, size] using placed.target_y
    · intro x y covered
      obtain ⟨left, top, right, bottom⟩ := covered
      have column : x - p.x.toNat < c.size.x.toNat := by omega
      have row : y - p.y.toNat < c.size.y.toNat := by omega
      refine ⟨_, settled _ _ column row, ?_⟩
      have converted := stored _ (region_size ▸ column) _ (region_size ▸ row)
      rw [shownAt, region_colors.decode] at converted
      simpa [storedFrom, bounds, Rect.ofSize, Vec2.zero] using converted

/-- What a blit may bring to a pixel whose source stores `v`: the value itself, where
both bitmaps have the same colours; the encoding of its colour; or, on an indexed
destination, the encoding of the colour of the settled value. -/
inductive Brought (dst src : Bitmap) (v w : UInt8 ⊕ Color) : Prop
  | moved (colors : SameColors src dst) (settles : dst.Settles v w)
  | encoded (equal : w = dst.encode (src.decode v))
  | recoded (indexed : dst.depth.isIndexed) (equal : w = dst.encode (src.decode (src.encode (src.decode v))))

theorem blit_of_clip_none (clipped : Rect.clip src.size dst.size r p = none) :
    dst.blit src r p = dst := by
  rw [blit, clipped]

/-- The four routes of a blit whose rectangle is clipped to `c`. -/
theorem blit_cases (clipped : Rect.clip src.size dst.size r p = some c) :
    (dst.depth = .trueColor32 ∧ dst.blit src r p = dst.overlay src c p) ∨
      dst.blit src r p = dst.overlayStaged src c p ∨
      (src.depth = dst.depth ∧ dst.canFastCopy src c p = true ∧
        dst.blit src r p = dst.copyRows src c p) ∨
      (dst.depth.isIndexed ∧ dst.blit src r p =
        dst.overlaySameDepth (dst.recoded src c).1 (dst.recoded src c).2 p) := by
  unfold blit
  rw [clipped]
  dsimp only
  split
  · rename_i wide
    exact .inl ⟨wide, rfl⟩
  rename_i narrow
  split
  · exact .inr (.inl rfl)
  rename_i fast
  rw [Bool.not_eq_true', Bool.not_eq_false] at fast
  split
  · rename_i depth
    exact .inr (.inr (.inl ⟨depth, fast, rfl⟩))
  · rw [← isIndexed_eq_false_iff, Bool.not_eq_false] at narrow
    exact .inr (.inr (.inr ⟨narrow, rfl⟩))

/-- Rows that are copied directly in a blit fit, and mean the same in both bitmaps. -/
theorem fits_of_fast (placed : Rect.Placed src.size dst.size c p) (depth : src.depth = dst.depth)
    (fast : dst.canFastCopy src c p = true) : RowsFit dst src c p ∧ SameColors src dst := by
  have same := Palette.same_iff.mp (canFastCopy_palette fast)
  exact ⟨⟨placed, depth, canFastCopy_aligned fast⟩,
    SameColors.of_same depth (Palette.same_iff.mpr same.symm)⟩

theorem sameShape_blit (wf : dst.WellFormed) (src : Bitmap) (r : Rect) (p : Vec2) :
    SameShape (dst.blit src r p) dst := by
  cases clipped : Rect.clip src.size dst.size r p with
  | none =>
    rw [blit_of_clip_none clipped]
    exact SameShape.refl dst
  | some c =>
    rcases blit_cases clipped with ⟨-, route⟩ | route | ⟨-, -, route⟩ | ⟨-, route⟩ <;> rw [route]
    · exact sameShape_overlay dst src c p
    · exact (overlayStaged_eq wf src c p).1
    · exact sameShape_copyRows dst src c p
    · exact sameShape_overlaySameDepth wf _ _ p

/-- Outside the target a blit leaves every pixel its value, settled. -/
theorem settles_blit (wf : dst.WellFormed) (src_wf : src.WellFormed)
    (clipped : Rect.clip src.size dst.size r p = some c) (hx : x < dst.size.x.toNat)
    (hy : y < dst.size.y.toNat) (outside : ¬Rect.Covers p c.size x y) :
    dst.Settles (dst.stored x y) ((dst.blit src r p).stored x y) := by
  have placed := Rect.placed_of_clip clipped
  rcases blit_cases clipped with ⟨wide, route⟩ | route | ⟨depth, fast, route⟩ | ⟨-, route⟩ <;>
    rw [route]
  · left
    rw [stored_overlay wf src_wf wide placed hx hy, if_neg outside]
  · right
    rw [stored_overlayStaged wf src_wf placed hx hy, if_neg outside]
    rfl
  · left
    rw [stored_copyRows (fits_of_fast placed depth fast).1 wf hx hy, if_neg outside]
  · have stands := standsFor_recoded wf src_wf placed
    have settled := settles_overlaySameDepth wf stands.wellFormed stands.placed stands.colors hx hy
    rwa [if_neg (stands.extent ▸ outside)] at settled

/-- What a blit brings to the pixels of the target. -/
theorem brought_blit (wf : dst.WellFormed) (src_wf : src.WellFormed)
    (clipped : Rect.clip src.size dst.size r p = some c) (hx : x < dst.size.x.toNat)
    (hy : y < dst.size.y.toNat) (covered : Rect.Covers p c.size x y) :
    dst.Brought src (src.storedFrom c p x y) ((dst.blit src r p).stored x y) := by
  have placed := Rect.placed_of_clip clipped
  rcases blit_cases clipped with ⟨wide, route⟩ | route | ⟨depth, fast, route⟩ | ⟨indexed, route⟩ <;>
    rw [route]
  · refine .encoded ?_
    rw [stored_overlay wf src_wf wide placed hx hy, if_pos covered, encode_trueColor32 wide,
      decode_storedFrom]
  · refine .encoded ?_
    rw [stored_overlayStaged wf src_wf placed hx hy, if_pos covered, decode_storedFrom]
  · obtain ⟨fit, colors⟩ := fits_of_fast placed depth fast
    refine .moved colors (.inl ?_)
    rw [stored_copyRows fit wf hx hy, if_pos covered, storedFrom]
  · have stands := standsFor_recoded wf src_wf placed
    have settled := settles_overlaySameDepth wf stands.wellFormed stands.placed stands.colors hx hy
    obtain ⟨v, source_settles, source_stored⟩ := stands.stored x y covered
    rw [if_pos (stands.extent ▸ covered), source_stored] at settled
    rcases source_settles with rfl | rfl
    · exact .encoded settled.of_encode
    · exact .recoded indexed settled.of_encode

/-- Between bitmaps of one depth a blit is one copy. -/
theorem blit_of_depth_eq (clipped : Rect.clip src.size dst.size r p = some c)
    (depth : src.depth = dst.depth) : dst.blit src r p = dst.overlaySameDepth src c p := by
  unfold blit overlaySameDepth
  rw [clipped]
  dsimp only
  by_cases wide : dst.depth = .trueColor32
  · rw [if_pos wide, overlay, if_pos (depth.trans wide), if_pos (by simp [wide])]
  · by_cases fast : dst.canFastCopy src c p = true
    · rw [if_neg wide, if_neg (by simp [fast]), if_pos depth, if_pos (by simp [fast])]
    · rw [if_neg wide, if_pos (by simp [fast]), if_neg (by simp [wide, fast])]

/-- A region is a blit of the clamped rectangle onto a bitmap of its extent. -/
theorem cloneRegion_eq_blit (b : Bitmap) (r : Rect) :
    b.cloneRegion r =
      (blank (r.clampedTo b.size).size b.depth b.palette).blit b (r.clampedTo b.size) Vec2.zero := by
  have clipped : Rect.clip b.size (blank (r.clampedTo b.size).size b.depth b.palette).size
      (r.clampedTo b.size) Vec2.zero = _ :=
    Rect.clip_whole (r.clampedTo_fits b.size).1 (r.clampedTo_fits b.size).2
  rw [cloneRegion_eq]
  by_cases empty : (r.clampedTo b.size).size.x = 0 ∨ (r.clampedTo b.size).size.y = 0
  · rw [if_pos empty] at clipped
    rw [if_pos empty, blit_of_clip_none clipped]
  · rw [if_neg empty] at clipped
    rw [if_neg empty, blit_of_depth_eq clipped rfl]

end blit

end Bitmap

end TileEngine
