import TileEngine.Proofs.Bitmap.Routes

/-!
The colours that a copy of a rectangle leaves behind. Where stored indices are
inside their palettes, every route gives the target the colours of the source, as
far as the palette of the destination has them, and leaves the colours of all other
pixels alone.
-/

namespace TileEngine

namespace Bitmap

/-! ## Colours that a palette has -/

/-- A bitmap reproduces a colour when a pixel that is given it shows it. -/
def Reproduces (b : Bitmap) (c : Color) : Prop := b.decode (b.encode c) = c

theorem reproduces_of_trueColor32 {b : Bitmap} (depth : b.depth = .trueColor32) (c : Color) :
    b.Reproduces c := by
  rw [Reproduces, encode_trueColor32 depth, decode]

theorem decode_encode_indexed {b : Bitmap} (indexed : b.depth.isIndexed) (c : Color) :
    b.decode (b.encode c) = b.effectivePalette.shown (b.effectivePalette.nearest c) := by
  rw [encode_indexed indexed, decode, Palette.toNat_nearestIndex]

/-- An entry of the palette is reproduced, by itself or by an equal one before it. -/
theorem reproduces_shown {b : Bitmap} {i : Nat} (inside : i < b.effectivePalette.len) :
    b.Reproduces (b.effectivePalette.shown i) := by
  by_cases indexed : b.depth.isIndexed = true
  · rw [Reproduces, decode_encode_indexed indexed]
    exact (Palette.isNearest_nearest _ (by omega)).shown_of_exact inside rfl
  · exact reproduces_of_trueColor32 (trueColor32_of_not_indexed indexed) _

/-- A bitmap that was not written yet stores index zero everywhere. -/
theorem indexesInPalette_blank {size : Vec2} {depth : Depth} {palette : Palette}
    (nonempty : 0 < (blank size depth palette).effectivePalette.len) :
    (blank size depth palette).IndexesInPalette := by
  intro p i index
  have zero : (blank size depth palette).readIndex p.x.toNat p.y.toNat = 0 := by
    cases depth with
    | mono1 =>
      simp only [readIndex, blank, getD_zeros]
      simp
    | indexed8 => simp only [readIndex, blank, getD_zeros]
    | trueColor32 => rfl
  unfold getIndex at index
  split at index
  · rw [zero, Option.some.injEq] at index
    rw [← index]
    exact nonempty
  · contradiction

theorem IndexesInPalette.index_lt {b : Bitmap} (h : b.IndexesInPalette) (indexed : b.depth.isIndexed)
    {x y : Nat} (hx : x < b.size.x.toNat) (hy : y < b.size.y.toNat) :
    (b.readIndex x y).toNat < b.effectivePalette.len := by
  refine h (Vec2.ofNats x y) _ ?_
  rw [getIndex_eq_some_iff, Vec2.toNat_ofNats_x hx, Vec2.toNat_ofNats_y hy, stored, if_pos indexed]
  exact ⟨Vec2.inside_ofNats hx hy, rfl⟩

/-- A bitmap with a pixel and with all indices inside the palette has a palette entry. -/
theorem IndexesInPalette.nonempty {b : Bitmap} (h : b.IndexesInPalette)
    (indexed : b.depth.isIndexed) {x y : Nat} (hx : x < b.size.x.toNat) (hy : y < b.size.y.toNat) :
    0 < b.effectivePalette.len :=
  Nat.zero_lt_of_lt (h.index_lt indexed hx hy)

/-- A bitmap whose indices are inside the palette reproduces everything it shows. -/
theorem IndexesInPalette.reproduces {b : Bitmap} (h : b.depth.isIndexed → b.IndexesInPalette)
    {x y : Nat} (hx : x < b.size.x.toNat) (hy : y < b.size.y.toNat) :
    b.Reproduces (b.shownAt x y) := by
  by_cases indexed : b.depth.isIndexed = true
  · rw [shownAt_indexed indexed]
    exact reproduces_shown ((h indexed).index_lt indexed hx hy)
  · exact reproduces_of_trueColor32 (trueColor32_of_not_indexed indexed) _

/-! ## One copy of a clipped rectangle -/

/-- What a copy of a rectangle leaves behind: the pixels that it covers show the
encoding of their source colour, and all others what they showed. -/
structure Painted (out dst src : Bitmap) (c : Rect) (p : Vec2) : Prop where
  shape : SameShape out dst
  copied : ∀ x < dst.size.x.toNat, ∀ y < dst.size.y.toNat, Rect.Covers p c.size x y →
    out.shownAt x y = dst.decode (dst.encode (src.shownFrom c p x y))
  frame : ∀ x < dst.size.x.toNat, ∀ y < dst.size.y.toNat, ¬Rect.Covers p c.size x y →
    out.shownAt x y = dst.shownAt x y

section blit

variable {dst src : Bitmap} {c r : Rect} {p : Vec2} {x y : Nat}

/-- From a source whose indices are inside its palette a blit brings the value itself,
where it means the same in both bitmaps, or else the encoding of the source colour. -/
theorem stored_blit_covered (wf : dst.WellFormed) (src_wf : src.WellFormed)
    (theirs : dst.depth.isIndexed → src.depth.isIndexed → src.IndexesInPalette)
    (clipped : Rect.clip src.size dst.size r p = some c) (hx : x < dst.size.x.toNat)
    (hy : y < dst.size.y.toNat) (covered : Rect.Covers p c.size x y) :
    (SameColors src dst ∧ (dst.blit src r p).stored x y = src.storedFrom c p x y) ∨
      (dst.blit src r p).stored x y = dst.encode (src.shownFrom c p x y) := by
  rcases brought_blit wf src_wf clipped hx hy covered with
    ⟨colors, kept | settled⟩ | equal | ⟨indexed, equal⟩
  · exact .inl ⟨colors, kept⟩
  · right
    rw [settled, ← colors.decode, decode_storedFrom]
  · right
    rw [equal, decode_storedFrom]
  · obtain ⟨column, row⟩ := source_inside (Rect.placed_of_clip clipped) covered
    have reproduces : src.Reproduces (src.shownFrom c p x y) :=
      IndexesInPalette.reproduces (theirs indexed) column row
    right
    rw [equal, decode_storedFrom, reproduces]

/-- Every route of a blit paints the clipped rectangle. -/
theorem painted_blit (wf : dst.WellFormed) (src_wf : src.WellFormed)
    (own : dst.depth.isIndexed → dst.IndexesInPalette)
    (theirs : dst.depth.isIndexed → src.depth.isIndexed → src.IndexesInPalette)
    (clipped : Rect.clip src.size dst.size r p = some c) :
    Painted (dst.blit src r p) dst src c p := by
  have shape := sameShape_blit wf src r p
  refine ⟨shape, ?_, ?_⟩
  · intro x hx y hy covered
    rw [shownAt, shape.decode]
    rcases stored_blit_covered wf src_wf theirs clipped hx hy covered with ⟨colors, kept⟩ | encoded
    · obtain ⟨column, row⟩ := source_inside (Rect.placed_of_clip clipped) covered
      have reproduces : src.Reproduces (src.shownFrom c p x y) :=
        IndexesInPalette.reproduces (fun indexed => theirs (colors.depth ▸ indexed) indexed) column row
      rw [kept, ← colors.decode, ← colors.encode, decode_storedFrom, reproduces]
    · rw [encoded]
  · intro x hx y hy outside
    rw [shownAt, shape.decode]
    rcases settles_blit wf src_wf clipped hx hy outside with kept | settled
    · rw [kept, shownAt]
    · rw [settled]
      exact IndexesInPalette.reproduces own hx hy

/-- What a pixel shows that is given colour `c`: the colour itself, or on an indexed
bitmap that of the nearest entry of the palette. -/
def Renders (b : Bitmap) (c shown : Color) : Prop :=
  if b.depth.isIndexed then
    ∃ i, b.effectivePalette.IsNearest c i ∧ shown = b.effectivePalette.shown i
  else shown = c

theorem renders_decode_encode {b : Bitmap} (nonempty : b.depth.isIndexed → 0 < b.effectivePalette.len)
    (c : Color) : b.Renders c (b.decode (b.encode c)) := by
  unfold Renders
  split
  · rename_i indexed
    exact ⟨_, Palette.isNearest_nearest c (nonempty indexed), decode_encode_indexed indexed c⟩
  · rename_i wide
    exact reproduces_of_trueColor32 (trueColor32_of_not_indexed wide) c

/-- A blit keeps extent, depth and palette of the destination. A position with a
source pixel shows the colour of that pixel, as far as the destination renders it,
and every other position shows what it showed before. -/
theorem colorAt_blit (wf : dst.WellFormed) (src_wf : src.WellFormed)
    (own : dst.depth.isIndexed → dst.IndexesInPalette)
    (theirs : dst.depth.isIndexed → src.depth.isIndexed → src.IndexesInPalette) (r : Rect)
    (p : Vec2) :
    (dst.blit src r p).size = dst.size ∧ (dst.blit src r p).depth = dst.depth ∧
      (dst.blit src r p).palette = dst.palette ∧
      ∀ q, q.inside dst.size = true →
        (r.sourceOf src.size p q = none → (dst.blit src r p).colorAt q = dst.colorAt q) ∧
        (∀ s, r.sourceOf src.size p q = some s → ∃ c shown, src.colorAt s = some c ∧
          dst.Renders c shown ∧ (dst.blit src r p).colorAt q = some shown) := by
  cases clipped : Rect.clip src.size dst.size r p with
  | none =>
    have unchanged : dst.blit src r p = dst := by rw [blit, clipped]
    rw [unchanged]
    refine ⟨rfl, rfl, rfl, ?_⟩
    intro q inside
    refine ⟨fun _ => rfl, ?_⟩
    intro s source
    rw [Rect.sourceOf_of_clip_none clipped inside] at source
    contradiction
  | some c =>
    have painted := painted_blit wf src_wf own theirs clipped
    have placed := Rect.placed_of_clip clipped
    refine ⟨painted.shape.size, painted.shape.depth, painted.shape.palette, ?_⟩
    intro q inside
    obtain ⟨hx, hy⟩ := Vec2.inside_iff.mp inside
    have shows : (dst.blit src r p).colorAt q =
        some ((dst.blit src r p).shownAt q.x.toNat q.y.toNat) := by
      rw [colorAt_eq, painted.shape.size, if_pos inside]
    rw [Rect.sourceOf_of_clip_some clipped inside, shows]
    by_cases covered : Rect.Covers p c.size q.x.toNat q.y.toNat
    · rw [if_pos (Rect.contains_iff_covers.mpr covered), painted.copied _ hx _ hy covered]
      refine ⟨by simp, ?_⟩
      intro s source
      obtain ⟨column, row⟩ := source_inside placed covered
      refine ⟨src.shownFrom c p q.x.toNat q.y.toNat, _, ?_,
        renders_decode_encode (fun indexed => (own indexed).nonempty indexed hx hy) _, rfl⟩
      rw [← Option.some.inj source, colorAt_eq, if_pos, Vec2.toNat_ofNats_x column, Vec2.toNat_ofNats_y row,
        shownFrom]
      rw [Vec2.inside_iff, Vec2.toNat_ofNats_x column, Vec2.toNat_ofNats_y row]
      exact ⟨column, row⟩
    · rw [if_neg (mt Rect.contains_iff_covers.mp covered), painted.frame _ hx _ hy covered, colorAt_eq,
        if_pos inside]
      exact ⟨fun _ => rfl, by simp⟩

/-- A grey rectangle that overhangs both bitmaps, on single-bit pixels that do not
start at a byte: the grey turns white and the pixel beside it stays black. -/
theorem colorAt_blit_monochrome :
    let grey : Color := ⟨200, 210, 190⟩
    let palette : Palette := ⟨Palette.writeFrom Palette.empty.cells 0 [grey], 1, by decide⟩
    let dst := blank ⟨9, 2⟩ .mono1 Palette.empty
    let src := blank ⟨3, 2⟩ .indexed8 palette
    let r := Rect.ofParts 1 0 5 5
    dst.WellFormed ∧ src.WellFormed ∧ dst.IndexesInPalette ∧ src.IndexesInPalette ∧
      (dst.blit src r ⟨7, 1⟩).colorAt ⟨8, 1⟩ = some .white ∧
      (dst.blit src r ⟨7, 1⟩).colorAt ⟨6, 1⟩ = some .black := by
  intro grey palette dst src r
  have dst_wf : dst.WellFormed := wellFormed_blank _ (by decide)
  have src_wf : src.WellFormed := wellFormed_blank _ (by decide)
  have own : dst.IndexesInPalette := indexesInPalette_blank (by decide)
  have theirs : src.IndexesInPalette := indexesInPalette_blank (by decide)
  obtain ⟨-, -, -, pixels⟩ :=
    colorAt_blit dst_wf src_wf (fun _ => own) (fun _ _ => theirs) r ⟨7, 1⟩
  refine ⟨dst_wf, src_wf, own, theirs, ?_, ?_⟩
  · obtain ⟨c, shown, source, renders, after⟩ := (pixels ⟨8, 1⟩ (by decide)).2 ⟨2, 0⟩ (by decide)
    have grey_source : c = grey := Option.some.inj (source.symm.trans (by decide +kernel))
    obtain ⟨i, nearest, shows⟩ := renders
    have entry : i = 1 := by
      rw [grey_source] at nearest
      exact nearest.unique (j := 1) ⟨by decide, by decide +kernel, by decide +kernel⟩
    rw [after, shows, entry]
    decide +kernel
  · rw [(pixels ⟨6, 1⟩ (by decide)).1 (by decide)]
    decide +kernel

end blit

end Bitmap

end TileEngine
