import TileEngine.Proofs.Bitmap.Blit
import TileEngine.Proofs.Bitmap.Reachable
import Mathlib.Data.List.Basic

/-!
The blit of bitmaps against the copy of single pixels. The one takes whole rows,
conversions and detours, the other asks for the nearest palette entry at every pixel
of the target. Where the destination stores for each of its colours one value only,
both leave the same buffer, with the same padding.
-/

namespace TileEngine

namespace Bitmap

variable {b dst src : Bitmap} {c r : Rect} {p q : Vec2} {x y : Nat}

/-! ## Single pixels -/

theorem setColor_indexed (indexed : b.depth.isIndexed) (inside : q.inside b.size = true)
    (color : Color) : b.setColor q color =
      b.writeIndex q.x.toNat q.y.toNat (b.effectivePalette.nearestIndex color) := by
  unfold setColor
  cases depth : b.depth <;> simp_all [Depth.isIndexed]

theorem setColor_trueColor32 (depth : b.depth = .trueColor32) (inside : q.inside b.size = true)
    (color : Color) : b.setColor q color = b.writeTexel q.x.toNat q.y.toNat color := by
  simp [setColor, inside, depth]

theorem setColor_outside (outside : ¬q.inside b.size = true) (color : Color) :
    b.setColor q color = b := by
  simp [setColor, outside]

/-- Giving a pixel a colour stores the encoding of the colour there. -/
theorem stored_setColor (wf : b.WellFormed) (inside : q.inside b.size = true) (color : Color)
    (hx : x < b.size.x.toNat) :
    (b.setColor q color).stored x y =
      if x = q.x.toNat ∧ y = q.y.toNat then b.encode color else b.stored x y := by
  obtain ⟨column, row⟩ := Vec2.inside_iff.mp inside
  by_cases indexed : b.depth.isIndexed = true
  · rw [setColor_indexed indexed inside, stored_writeIndex wf indexed column row _ hx,
      kept_nearestIndex wf, encode_indexed indexed]
  · have wide := trueColor32_of_not_indexed indexed
    rw [setColor_trueColor32 wide inside, stored_writeTexel wf wide column row color hx,
      encode_trueColor32 wide]

/-- A position that is moved inside an extent does not wrap around. -/
theorem toNat_offset {limit : Vec2} (hx : p.x.toNat + x < limit.x.toNat)
    (hy : p.y.toNat + y < limit.y.toNat) :
    (Surface.offset p x y).x.toNat = p.x.toNat + x ∧
      (Surface.offset p x y).y.toNat = p.y.toNat + y := by
  have width := limit.x.toNat_lt
  have height := limit.y.toNat_lt
  simp only [Surface.offset, UInt16.toNat_add, Vec2.toNat_toUInt16 (show x < 65536 by omega),
    Vec2.toNat_toUInt16 (show y < 65536 by omega)]
  omega

/-- Scans whose updates agree on the extent are equal. -/
theorem scan_congr {α : Type} {size : Vec2} {f g : Nat → Nat → α → α} {start : α}
    (agree : ∀ x < size.x.toNat, ∀ y < size.y.toNat, ∀ s, f x y s = g x y s) :
    scan size f start = scan size g start := by
  refine List.foldl_ext _ _ _ fun row y hy => ?_
  refine List.foldl_ext _ _ _ fun s x hx => ?_
  exact agree x (List.mem_range.mp hx) y (List.mem_range.mp hy) s

/-- One pixel of a copy from a bitmap: its colour is read and given to the target. -/
def drawPixel (src : Bitmap) (c : Rect) (p : Vec2) (i j : Nat) (s : Bitmap) : Bitmap :=
  s.setColor (Surface.offset p i j) (src.shownAt (c.origin.x.toNat + i) (c.origin.y.toNat + j))

theorem surface_blit_of_clip_none (clipped : Rect.clip src.size dst.size r p = none) :
    Surface.blit dst src r p = dst := by
  have clipped' : Rect.clip (Surface.size src) (Surface.size dst) r p = none := clipped
  rw [Surface.blit, clipped']

/-- Every pixel of a placed rectangle has a source pixel. -/
theorem colorAt_offset (placed : Rect.Placed src.size dst.size c p) {i j : Nat}
    (hi : i < c.size.x.toNat) (hj : j < c.size.y.toNat) :
    src.colorAt (Surface.offset c.origin i j) =
      some (src.shownAt (c.origin.x.toNat + i) (c.origin.y.toNat + j)) := by
  have column : c.origin.x.toNat + i < src.size.x.toNat := by
    have := placed.source_x
    omega
  have row : c.origin.y.toNat + j < src.size.y.toNat := by
    have := placed.source_y
    omega
  obtain ⟨source_x, source_y⟩ := toNat_offset (p := c.origin) column row
  rw [colorAt_eq, if_pos (Vec2.inside_iff.mpr ⟨source_x ▸ column, source_y ▸ row⟩), source_x, source_y]

/-- All pixels of a clipped rectangle are drawn. -/
theorem surface_blit_eq (clipped : Rect.clip src.size dst.size r p = some c) :
    Surface.blit dst src r p = scan c.size (drawPixel src c p) dst := by
  have placed := Rect.placed_of_clip clipped
  have clipped' : Rect.clip (Surface.size src) (Surface.size dst) r p = some c := clipped
  unfold Surface.blit
  rw [clipped']
  apply scan_congr
  intro i hi j hj s
  have pixel : Surface.getPixel src (Surface.offset c.origin i j) =
      some (src.shownAt (c.origin.x.toNat + i) (c.origin.y.toNat + j)) := colorAt_offset placed hi hj
  rw [pixel]
  rfl

theorem stored_drawPixel (wf : dst.WellFormed) (placed : Rect.Placed src.size dst.size c p) {i j : Nat}
    (hi : i < c.size.x.toNat) (hj : j < c.size.y.toNat) {s : Bitmap} (shape : SameShape s dst)
    (hx : x < dst.size.x.toNat) :
    (drawPixel src c p i j s).stored x y =
      if x = p.x.toNat + i ∧ y = p.y.toNat + j then
        dst.encode (src.shownAt (c.origin.x.toNat + i) (c.origin.y.toNat + j))
      else s.stored x y := by
  have column : p.x.toNat + i < dst.size.x.toNat := by
    have := placed.target_x
    omega
  have row : p.y.toNat + j < dst.size.y.toNat := by
    have := placed.target_y
    omega
  obtain ⟨target_x, target_y⟩ := toNat_offset (p := p) column row
  have inside : (Surface.offset p i j).inside s.size = true := by
    rw [Vec2.inside_iff, target_x, target_y, shape.size]
    exact ⟨column, row⟩
  rw [drawPixel, stored_setColor (shape.wellFormed wf) inside _ (shape.size ▸ hx), target_x, target_y,
    shape.encode]

/-- A copy of single pixels stores the encodings of the source colours in the target,
and leaves every other pixel alone. -/
theorem stored_surface_blit (wf : dst.WellFormed)
    (clipped : Rect.clip src.size dst.size r p = some c) (hx : x < dst.size.x.toNat) :
    (Surface.blit dst src r p).stored x y =
      if Rect.Covers p c.size x y then dst.encode (src.shownFrom c p x y) else dst.stored x y := by
  have placed := Rect.placed_of_clip clipped
  rw [surface_blit_eq clipped]
  have read := @scan_read _ _ c.size (drawPixel src c p) (fun s => s.stored x y) (SameShape · dst)
    (fun i j => x = p.x.toNat + i ∧ y = p.y.toNat + j) (dst.encode (src.shownFrom c p x y))
    (fun i _ j _ s hs => (sameShape_setColor s _ _).trans hs)
    (fun i hi j hj s hs own => by
      rw [stored_drawPixel wf placed hi hj hs hx, if_pos own, shownFrom, own.1, own.2,
        Nat.add_sub_cancel_left, Nat.add_sub_cancel_left])
    (fun i hi j hj s hs other => by rw [stored_drawPixel wf placed hi hj hs hx, if_neg other])
    dst (SameShape.refl dst)
  by_cases covered : Rect.Covers p c.size x y
  · rw [if_pos covered]
    obtain ⟨left, top, right, bottom⟩ := covered
    exact read.1 ⟨x - p.x.toNat, by omega, y - p.y.toNat, by omega, by omega, by omega⟩
  · rw [if_neg covered]
    refine read.2 ?_
    rintro ⟨i, hi, j, hj, column, row⟩
    refine covered ⟨?_, ?_, ?_, ?_⟩ <;> omega

/-! ## Values that survive a detour -/

/-- What a pixel shows tells what it stores: no colour of the palette is there twice, and
no index is outside of it. -/
def TellsApart (b : Bitmap) : Prop :=
  b.depth = .trueColor32 ∨ (b.effectivePalette.active.Nodup ∧ b.IndexesInPalette)

/-- A source in the colours of such a bitmap is one itself, if its indices are inside. -/
theorem TellsApart.of_colors (h : dst.TellsApart) (colors : SameColors src dst)
    (theirs : src.depth.isIndexed → src.IndexesInPalette) : src.TellsApart := by
  rcases h with wide | ⟨nodup, -⟩
  · exact .inl (colors.depth.trans wide)
  · cases indexed : src.depth.isIndexed with
    | false => exact .inl (isIndexed_eq_false_iff.mp indexed)
    | true => exact .inr ⟨colors.active ▸ nodup, theirs indexed⟩

theorem TellsApart.encode_shownAt (h : b.TellsApart) (hx : x < b.size.x.toNat)
    (hy : y < b.size.y.toNat) : b.encode (b.shownAt x y) = b.stored x y := by
  rcases h with wide | ⟨nodup, indexes⟩
  · rw [encode_trueColor32 wide, shownAt_trueColor32 wide, stored_trueColor32 wide]
  · cases indexed : b.depth.isIndexed with
    | false =>
      have wide := isIndexed_eq_false_iff.mp indexed
      rw [encode_trueColor32 wide, shownAt_trueColor32 wide, stored_trueColor32 wide]
    | true =>
      rw [encode_indexed indexed, shownAt_indexed indexed, stored, if_pos indexed, Sum.inl.injEq,
        ← UInt8.toNat_inj, Palette.toNat_nearestIndex]
      exact Palette.nearest_shown_of_nodup nodup (indexes.index_lt indexed hx hy)

/-- The blit of bitmaps leaves the bitmap that the copy of single pixels leaves, byte
for byte, when the destination is in true colour, or when its effective palette has no
colour twice and no index that is stored in it, or in an indexed source, is outside the
effective palette. -/
theorem blit_eq_surface_blit (dst_reachable : dst.Reachable) (src_reachable : src.Reachable)
    (distinct : dst.depth = .trueColor32 ∨ (dst.effectivePalette.active.Nodup ∧
      dst.IndexesInPalette ∧ (src.depth.isIndexed → src.IndexesInPalette))) (r : Rect) (p : Vec2) :
    dst.blit src r p = Surface.blit dst src r p := by
  have wf := dst_reachable.wellFormed
  have src_wf := src_reachable.wellFormed
  have own : dst.TellsApart := distinct.imp_right fun both => ⟨both.1, both.2.1⟩
  have theirs : dst.depth.isIndexed → src.depth.isIndexed → src.IndexesInPalette := by
    intro indexed
    rcases distinct with wide | ⟨-, -, theirs⟩
    · rw [wide] at indexed
      contradiction
    · exact theirs
  cases clipped : Rect.clip src.size dst.size r p with
  | none =>
    rw [blit_of_clip_none clipped, surface_blit_of_clip_none clipped]
  | some c =>
    have shape := sameShape_surface_blit dst src r p
    have fast := dst_reachable.canonical.blit src_reachable.canonical r p
    have slow := dst_reachable.canonical.surface_blit src r p
    refine fast.eq_of_stored slow ((sameShape_blit wf src r p).trans shape.symm) ?_
    rw [shape.size]
    intro x hx y hy
    rw [stored_surface_blit wf clipped hx]
    by_cases covered : Rect.Covers p c.size x y
    · rw [if_pos covered]
      rcases stored_blit_covered wf src_wf theirs clipped hx hy covered with ⟨colors, kept⟩ | encoded
      · -- the value itself: in the colours of the destination it encodes what it shows
        obtain ⟨column, row⟩ := source_inside (Rect.placed_of_clip clipped) covered
        have source : src.TellsApart :=
          own.of_colors colors fun indexed => theirs (colors.depth ▸ indexed) indexed
        rw [kept, ← colors.encode]
        exact (source.encode_shownAt column row).symm
      · exact encoded
    · rw [if_neg covered]
      rcases settles_blit wf src_wf clipped hx hy covered with kept | settled
      · exact kept
      · exact settled.trans (own.encode_shownAt hx hy)

/-- Grey on black and white, from another depth and at columns that do not start a byte. -/
theorem blit_eq_surface_blit_unaligned :
    let grey : Palette := ⟨Palette.writeFrom Palette.empty.cells 0 [⟨200, 210, 190⟩], 1, by decide⟩
    let dst := blank ⟨9, 2⟩ .mono1 Palette.empty
    let src := blank ⟨3, 2⟩ .indexed8 grey
    let r := Rect.ofParts 1 0 5 5
    dst.Reachable ∧ src.Reachable ∧ dst.effectivePalette.active.Nodup ∧ dst.IndexesInPalette ∧
      src.IndexesInPalette ∧ dst.blit src r ⟨7, 1⟩ = Surface.blit dst src r ⟨7, 1⟩ ∧
      (dst.blit src r ⟨7, 1⟩).pixels = #[0, 0, 0, 0, 0x01, 0x80, 0, 0] := by
  intro grey dst src r
  have dst_reachable : dst.Reachable := reachable_blank _ (by decide)
  have src_reachable : src.Reachable := reachable_blank _ (by decide)
  have nodup : dst.effectivePalette.active.Nodup := by decide +kernel
  have own : dst.IndexesInPalette := indexesInPalette_blank (by decide)
  have theirs : src.IndexesInPalette := indexesInPalette_blank (by decide)
  refine ⟨dst_reachable, src_reachable, nodup, own, theirs, ?_, by decide +kernel⟩
  exact blit_eq_surface_blit dst_reachable src_reachable (.inr ⟨nodup, own, fun _ => theirs⟩) r ⟨7, 1⟩

end Bitmap

end TileEngine
