import TileEngine.Proofs.Bitmap.Blit

/-!
One blit after another. A blit leaves a bitmap of the same shape whose stored indices are
inside its palette again, so that the next blit is as exact as the first one. What each of
them does to one pixel depends on the shape only, not on what the others have left there.
-/

namespace TileEngine

namespace Bitmap

variable {dst src b : Bitmap} {r c : Rect} {p q s : Vec2}

/-- An index that a bitmap stores for a colour is inside its palette. -/
theorem index_lt_of_encode (indexed : dst.depth.isIndexed) (nonempty : 0 < dst.effectivePalette.len)
    {color : Color} {i : UInt8} (stores : dst.encode color = .inl i) :
    i.toNat < dst.effectivePalette.len := by
  rw [encode_indexed indexed, Sum.inl.injEq] at stores
  rw [← stores, Palette.toNat_nearestIndex]
  exact Palette.nearest_lt color nonempty

/-- A blit brings no index that is outside the palette. -/
theorem IndexesInPalette.blit (wf : dst.WellFormed) (src_wf : src.WellFormed)
    (indexed : dst.depth.isIndexed) (own : dst.IndexesInPalette)
    (theirs : src.depth.isIndexed → src.IndexesInPalette) (r : Rect) (p : Vec2) :
    (dst.blit src r p).IndexesInPalette := by
  cases clipped : Rect.clip src.size dst.size r p with
  | none =>
    rw [Bitmap.blit, clipped]
    exact own
  | some c =>
    have shape := sameShape_blit wf src r p
    intro q i index
    obtain ⟨inside, stores⟩ := getIndex_eq_some_iff.mp index
    rw [shape.size, Vec2.inside_iff] at inside
    obtain ⟨hx, hy⟩ := inside
    have nonempty := own.nonempty indexed hx hy
    rw [shape.effectivePalette]
    by_cases covered : Rect.Covers p c.size q.x.toNat q.y.toNat
    · rcases stored_blit_covered wf src_wf (fun _ => theirs) clipped hx hy covered with
        ⟨colors, kept⟩ | encoded
      · obtain ⟨column, row⟩ := source_inside (Rect.placed_of_clip clipped) covered
        have source_indexed : src.depth.isIndexed := colors.depth ▸ indexed
        have lt := (theirs source_indexed).index_lt source_indexed column row
        rw [kept, storedFrom, stored, if_pos source_indexed, Sum.inl.injEq] at stores
        rwa [stores, Palette.len_eq_of_active colors.active] at lt
      · exact index_lt_of_encode indexed nonempty (encoded.symm.trans stores)
    · rcases settles_blit wf src_wf clipped hx hy covered with kept | settled
      · exact own q i (getIndex_eq_some_iff.mpr
          ⟨Vec2.inside_iff.mpr ⟨hx, hy⟩, kept.symm.trans stores⟩)
      · exact index_lt_of_encode indexed nonempty (settled.symm.trans stores)

/-- A bitmap that stands in for `dst` while images are painted on it. -/
structure Canvas (dst b : Bitmap) : Prop where
  shape : SameShape b dst
  wellFormed : b.WellFormed
  indexes : b.depth.isIndexed → b.IndexesInPalette

theorem canvas_self (wf : dst.WellFormed) (own : dst.depth.isIndexed → dst.IndexesInPalette) :
    Canvas dst dst :=
  ⟨.refl dst, wf, own⟩

namespace Canvas

variable (canvas : Canvas dst b) (src_wf : src.WellFormed)
  (theirs : dst.depth.isIndexed → src.depth.isIndexed → src.IndexesInPalette)

include canvas src_wf theirs

theorem blit (r : Rect) (p : Vec2) : Canvas dst (b.blit src r p) := by
  have shape := sameShape_blit canvas.wellFormed src r p
  refine ⟨shape.trans canvas.shape, shape.wellFormed canvas.wellFormed, ?_⟩
  intro indexed
  rw [shape.depth] at indexed
  exact (canvas.indexes indexed).blit canvas.wellFormed src_wf indexed
    (theirs (canvas.shape.depth ▸ indexed)) r p

/-- A pixel without a source pixel shows what it showed. -/
theorem colorAt_blit_frame (inside : q.inside dst.size = true)
    (outside : r.sourceOf src.size p q = none) : (b.blit src r p).colorAt q = b.colorAt q := by
  have inside_b : q.inside b.size = true := canvas.shape.size ▸ inside
  cases clipped : Rect.clip src.size b.size r p with
  | none => rw [Bitmap.blit, clipped]
  | some c =>
    have painted := painted_blit canvas.wellFormed src_wf canvas.indexes
      (fun indexed => theirs (canvas.shape.depth ▸ indexed)) clipped
    obtain ⟨hx, hy⟩ := Vec2.inside_iff.mp inside_b
    have uncovered := Rect.not_covers_of_sourceOf clipped inside_b outside
    rw [colorAt_eq, colorAt_eq, painted.shape.size, painted.frame _ hx _ hy uncovered]

/-- A pixel with a source pixel shows the colour of that one, as `dst` stores it. -/
theorem colorAt_blit_taken (inside : q.inside dst.size = true)
    (taken : r.sourceOf src.size p q = some s) :
    (b.blit src r p).colorAt q = (src.colorAt s).map fun color => dst.decode (dst.encode color) := by
  have inside_b : q.inside b.size = true := canvas.shape.size ▸ inside
  cases clipped : Rect.clip src.size b.size r p with
  | none =>
    rw [Rect.sourceOf_of_clip_none clipped inside_b] at taken
    contradiction
  | some c =>
    have painted := painted_blit canvas.wellFormed src_wf canvas.indexes
      (fun indexed => theirs (canvas.shape.depth ▸ indexed)) clipped
    obtain ⟨hx, hy⟩ := Vec2.inside_iff.mp inside_b
    obtain ⟨covered, same⟩ := Rect.covers_of_sourceOf clipped inside_b taken
    obtain ⟨column, row⟩ := source_inside (Rect.placed_of_clip clipped) covered
    rw [colorAt_eq, painted.shape.size, if_pos inside_b, painted.copied _ hx _ hy covered, same,
      colorAt_eq, if_pos (Vec2.inside_ofNats column row), Vec2.toNat_ofNats_x column,
      Vec2.toNat_ofNats_y row, canvas.shape.decode, canvas.shape.encode]
    rfl

end Canvas

end Bitmap

end TileEngine
