import TileEngine.Proofs.Bitmap.PerPixel

/-!
What the detour by way of true colour does to stored indices. It brings back, for
every pixel of the destination, the entry nearest to the colour that was shown, so an
index survives only where it is the first of its colour. Two promises of a blit fail
for this reason. A pixel outside the target that stores an index past the palette
reads as black, and turns into the entry nearest to black. And a copy of single-bit
pixels that do not start at a byte loses the indices of a palette of one colour, while
the same copy at aligned columns moves them as they are. The theorems say what is left
of both promises.
-/

namespace TileEngine

namespace Bitmap

variable {a b dst src : Bitmap} {c r : Rect} {p q s : Vec2} {x y : Nat}

/-! ## Outside the target -/

/-- Outside the target a pixel shows what it showed. The exception is an index past the
effective palette: it reads as black, and what it shows afterwards may be the entry
nearest to black. -/
theorem colorAt_blit_outside (dst_reachable : dst.Reachable) (src_reachable : src.Reachable)
    (inside : q.inside dst.size = true) (outside : r.sourceOf src.size p q = none) :
    (dst.blit src r p).colorAt q = dst.colorAt q ∨
      ∃ i, dst.getIndex q = some i ∧ dst.effectivePalette.len ≤ i.toNat ∧
        dst.colorAt q = some .black ∧ (dst.blit src r p).colorAt q =
          some (dst.effectivePalette.shown (dst.effectivePalette.nearest .black)) := by
  have wf := dst_reachable.wellFormed
  have src_wf := src_reachable.wellFormed
  have shape := sameShape_blit wf src r p
  obtain ⟨hx, hy⟩ := Vec2.inside_iff.mp inside
  cases clipped : Rect.clip src.size dst.size r p with
  | none =>
    left
    rw [blit_of_clip_none clipped]
  | some c =>
    have uncovered := Rect.not_covers_of_sourceOf clipped inside outside
    have shows : (dst.blit src r p).colorAt q =
        some (dst.decode ((dst.blit src r p).stored q.x.toNat q.y.toNat)) := by
      rw [colorAt_eq, shape.size, if_pos inside, shownAt, shape.decode]
    have showed : dst.colorAt q = some (dst.shownAt q.x.toNat q.y.toNat) := by
      rw [colorAt_eq, if_pos inside]
    rw [shows, showed]
    rcases settles_blit wf src_wf clipped hx hy uncovered with kept | settled
    · left
      rw [kept, shownAt]
    · change _ = dst.encode (dst.shownAt _ _) at settled
      rw [settled]
      cases indexed : dst.depth.isIndexed with
      | false =>
        left
        rw [reproduces_of_trueColor32 (isIndexed_eq_false_iff.mp indexed)]
      | true =>
        rw [shownAt_indexed indexed]
        rcases Nat.lt_or_ge (dst.readIndex q.x.toNat q.y.toNat).toNat dst.effectivePalette.len with
          entry | past
        · left
          rw [reproduces_shown entry]
        · right
          refine ⟨_, ?_, past, ?_, ?_⟩
          · rw [getIndex_eq_some_iff, stored, if_pos indexed]
            exact ⟨inside, rfl⟩
          · rw [Palette.shown_of_len_le past]
          · rw [Palette.shown_of_len_le past, decode_encode_indexed indexed]

/-- A white pixel beside the target of a copy that takes the detour stays white. -/
theorem colorAt_blit_outside_white :
    let white : Palette := ⟨Palette.writeFrom Palette.empty.cells 0 [.white], 1, by decide⟩
    let dst := blank ⟨2, 1⟩ .indexed8 white
    let src := blank ⟨1, 1⟩ .indexed8 Palette.empty
    let r := Rect.ofParts 0 0 1 1
    dst.Reachable ∧ src.Reachable ∧ Vec2.inside ⟨0, 0⟩ dst.size = true ∧
      r.sourceOf src.size ⟨1, 0⟩ ⟨0, 0⟩ = none ∧
      (dst.blit src r ⟨1, 0⟩).colorAt ⟨0, 0⟩ = some .white := by
  intro white dst src r
  have dst_reachable : dst.Reachable := reachable_blank _ (by decide)
  have src_reachable : src.Reachable := reachable_blank _ (by decide)
  have inside : Vec2.inside ⟨0, 0⟩ dst.size = true := by decide
  have outside : r.sourceOf src.size ⟨1, 0⟩ ⟨0, 0⟩ = none := by decide
  refine ⟨dst_reachable, src_reachable, inside, outside, ?_⟩
  rcases colorAt_blit_outside dst_reachable src_reachable inside outside with same | past
  · rw [same]
    decide +kernel
  · -- the pixel stores index zero, which is an entry
    obtain ⟨i, index, past, -⟩ := past
    have zero : i = 0 := Option.some.inj (index.symm.trans (by decide +kernel))
    rw [zero] at past
    exact absurd past (by decide)

/-- A copy to the pixel beside it turns an index past a white palette from black to
white. -/
theorem not_colorAt_blit_outside :
    ¬∀ (dst src : Bitmap) (r : Rect) (p q : Vec2), dst.Reachable → src.Reachable →
      q.inside dst.size = true → r.sourceOf src.size p q = none →
      (dst.blit src r p).colorAt q = dst.colorAt q := by
  intro frame
  let black : Palette := ⟨Palette.empty.cells, 1, by decide⟩
  let dst := (blank ⟨2, 1⟩ .indexed8 black).edits [.setPaletteColor 0 .white, .setIndex ⟨0, 0⟩ 5]
  let src := blank ⟨1, 1⟩ .indexed8 black
  have dst_reachable : dst.Reachable := (reachable_blank _ (by decide)).edits _ (by simp)
  have src_reachable : src.Reachable := reachable_blank _ (by decide)
  have equal := frame dst src (.ofParts 0 0 1 1) ⟨1, 0⟩ ⟨0, 0⟩ dst_reachable src_reachable
    (by decide +kernel) (by decide +kernel)
  have before : dst.colorAt ⟨0, 0⟩ = some .black := by decide +kernel
  have after : (dst.blit src (.ofParts 0 0 1 1) ⟨1, 0⟩).colorAt ⟨0, 0⟩ = some .white := by
    decide +kernel
  rw [before, after] at equal
  exact absurd equal (by decide)

/-! ## Like for like -/

/-- A copy that gives each position with a source pixel the index and the colour of this
pixel, and leaves those of every other position alone. -/
structure Copied (out dst src : Bitmap) (r : Rect) (p : Vec2) : Prop where
  target : ∀ q s, q.inside dst.size = true → r.sourceOf src.size p q = some s →
    out.getIndex q = src.getIndex s ∧ out.colorAt q = src.colorAt s
  frame : ∀ q, q.inside dst.size = true → r.sourceOf src.size p q = none →
    out.getIndex q = dst.getIndex q ∧ out.colorAt q = dst.colorAt q

/-- A copy between bitmaps of one palette that cannot move bytes: single-bit pixels that
are not aligned to bytes, or that have no room up to the end of the last byte. -/
def Detours (dst src : Bitmap) (r : Rect) (p : Vec2) : Prop :=
  dst.depth = .mono1 ∧
    ∃ c, Rect.clip src.size dst.size r p = some c ∧ dst.canFastCopy src c p = false

/-- Equal stored values read alike in bitmaps of the same colours. -/
theorem reads_eq (colors : SameColors a b) (inside_a : q.inside a.size = true)
    (inside_b : s.inside b.size = true)
    (stored : a.stored q.x.toNat q.y.toNat = b.stored s.x.toNat s.y.toNat) :
    a.getIndex q = b.getIndex s ∧ a.colorAt q = b.colorAt s := by
  constructor
  · ext i
    rw [getIndex_eq_some_iff, getIndex_eq_some_iff, stored]
    simp only [inside_a, inside_b]
  · rw [colorAt_eq, colorAt_eq, if_pos inside_a, if_pos inside_b, shownAt, shownAt, stored,
      colors.decode]

/-- A single-bit bitmap with a palette of two colours keeps its values on a detour. -/
theorem tellsApart_of_varied (wf : b.WellFormed) (mono : b.depth = .mono1)
    (varied : b.effectivePalette.Varied) : b.TellsApart := by
  obtain ⟨j, inside, other⟩ := varied
  have fits := effectivePalette_fits wf
  rw [mono, Depth.maxPalette] at fits
  have second : j ≠ 0 := by
    rintro rfl
    exact other rfl
  have two : b.effectivePalette.len = 2 := by omega
  refine .inr ⟨?_, ?_⟩
  · rw [Palette.nodup_active_iff]
    intro i k lt hk
    have last : k = j := by omega
    have first : i = 0 := by omega
    rw [last, first]
    exact other.symm
  · intro p i index
    obtain ⟨-, stored⟩ := getIndex_eq_some_iff.mp index
    rw [stored_mono1 mono, Sum.inl.injEq] at stored
    rw [two, ← stored]
    split <;> decide

/-- Bytes are moved wherever the bitmaps do not have unaligned single-bit pixels. -/
theorem direct_of_not_detours (palette : dst.palette.same src.palette = true)
    (clipped : Rect.clip src.size dst.size r p = some c) (straight : ¬dst.Detours src r p) :
    (dst.depth = .trueColor32 || dst.canFastCopy src c p) = true := by
  by_cases mono : dst.depth = .mono1
  · have fast : dst.canFastCopy src c p = true := by
      by_contra slow
      exact straight ⟨mono, c, clipped, by simpa using slow⟩
    rw [fast, Bool.or_true]
  · simp [canFastCopy, palette, mono]

/-- A detour stores the encodings of colours, those outside the target included. -/
theorem stored_blit_of_detours (wf : dst.WellFormed) (src_wf : src.WellFormed)
    (depth : src.depth = dst.depth) (detours : dst.Detours src r p)
    (clipped : Rect.clip src.size dst.size r p = some c) (hx : x < dst.size.x.toNat)
    (hy : y < dst.size.y.toNat) :
    (dst.blit src r p).stored x y =
      dst.encode (if Rect.Covers p c.size x y then src.shownFrom c p x y else dst.shownAt x y) := by
  obtain ⟨mono, c', clipped', slow⟩ := detours
  cases Option.some.inj (clipped.symm.trans clipped')
  rw [blit_of_depth_eq clipped depth, overlaySameDepth, if_neg (by simp [mono, slow]),
    stored_overlayStaged wf src_wf (Rect.placed_of_clip clipped) hx hy]

/-- The copy is exact where it moves bytes, and on a detour if the palette has two
colours. -/
theorem stored_blit_same (wf : dst.WellFormed) (src_wf : src.WellFormed)
    (depth : src.depth = dst.depth) (palette : dst.palette.same src.palette = true)
    (varied : dst.Detours src r p → dst.effectivePalette.Varied)
    (clipped : Rect.clip src.size dst.size r p = some c) (hx : x < dst.size.x.toNat)
    (hy : y < dst.size.y.toNat) :
    (dst.blit src r p).stored x y =
      if Rect.Covers p c.size x y then src.storedFrom c p x y else dst.stored x y := by
  have placed := Rect.placed_of_clip clipped
  have colors : SameColors src dst :=
    SameColors.of_same depth (Palette.same_iff.mpr (Palette.same_iff.mp palette).symm)
  by_cases detours : dst.Detours src r p
  · have own := tellsApart_of_varied wf detours.1 (varied detours)
    have theirs := tellsApart_of_varied src_wf (depth.trans detours.1)
      ((Palette.varied_iff_of_active colors.active).mpr (varied detours))
    rw [stored_blit_of_detours wf src_wf depth detours clipped hx hy]
    by_cases covered : Rect.Covers p c.size x y
    · obtain ⟨column, row⟩ := source_inside placed covered
      rw [if_pos covered, if_pos covered, ← colors.encode]
      exact theirs.encode_shownAt column row
    · rw [if_neg covered, if_neg covered]
      exact own.encode_shownAt hx hy
  · have direct := direct_of_not_detours palette clipped detours
    rw [blit_of_depth_eq clipped depth, overlaySameDepth, if_pos direct,
      stored_copyRows (RowsFit.of_direct placed depth direct) wf hx hy]
    rfl

theorem copied_blit (wf : dst.WellFormed) (src_wf : src.WellFormed)
    (depth : src.depth = dst.depth) (palette : dst.palette.same src.palette = true)
    (varied : dst.Detours src r p → dst.effectivePalette.Varied) :
    Copied (dst.blit src r p) dst src r p := by
  have shape := sameShape_blit wf src r p
  have colors : SameColors dst src := SameColors.of_same depth.symm palette
  cases clipped : Rect.clip src.size dst.size r p with
  | none =>
    rw [blit_of_clip_none clipped]
    refine ⟨?_, fun _ _ _ => ⟨rfl, rfl⟩⟩
    intro q s inside taken
    rw [Rect.sourceOf_of_clip_none clipped inside] at taken
    contradiction
  | some c =>
    have stored (x y : Nat) := stored_blit_same (x := x) (y := y) wf src_wf depth palette varied clipped
    refine ⟨?_, ?_⟩
    · intro q s inside taken
      obtain ⟨hx, hy⟩ := Vec2.inside_iff.mp inside
      obtain ⟨covered, rfl⟩ := Rect.covers_of_sourceOf clipped inside taken
      obtain ⟨column, row⟩ := source_inside (Rect.placed_of_clip clipped) covered
      apply reads_eq ((SameColors.of_shape shape).trans colors) (shape.size ▸ inside)
        (Vec2.inside_ofNats column row)
      rw [stored _ _ hx hy, if_pos covered, storedFrom, Vec2.toNat_ofNats_x column,
        Vec2.toNat_ofNats_y row]
    · intro q inside outside
      obtain ⟨hx, hy⟩ := Vec2.inside_iff.mp inside
      apply reads_eq (SameColors.of_shape shape) (shape.size ▸ inside) inside
      rw [stored _ _ hx hy, if_neg (Rect.not_covers_of_sourceOf clipped inside outside)]

/-- A detour with a palette of one colour leaves index zero in every pixel. -/
theorem getIndex_blit_plain (wf : dst.WellFormed) (src_wf : src.WellFormed)
    (depth : src.depth = dst.depth) (detours : dst.Detours src r p)
    (plain : ¬dst.effectivePalette.Varied) (inside : q.inside dst.size = true) :
    (dst.blit src r p).getIndex q = some 0 := by
  have shape := sameShape_blit wf src r p
  obtain ⟨hx, hy⟩ := Vec2.inside_iff.mp inside
  obtain ⟨c, clipped, -⟩ := detours.2
  have indexed : dst.depth.isIndexed := by
    rw [detours.1]
    rfl
  rw [getIndex_eq_some_iff, stored_blit_of_detours wf src_wf depth detours clipped hx hy,
    encode_indexed indexed, Palette.nearestIndex, Palette.nearest_of_not_varied plain]
  exact ⟨shape.size ▸ inside, rfl⟩

/-- A region reads as its rectangle does where the copy into it is exact. -/
theorem reads_cloneRegion (wf : b.WellFormed) (clamped : r.clampedTo b.size = c)
    (varied : (blank c.size b.depth b.palette).Detours b c Vec2.zero → b.effectivePalette.Varied)
    (inside : q.inside c.size = true) :
    (b.cloneRegion r).getIndex q = b.getIndex (c.positionOf q) ∧
      (b.cloneRegion r).colorAt q = b.colorAt (c.positionOf q) := by
  have start := wellFormed_blank c.size wf.palette_fits
  have copied := copied_blit start wf rfl (Palette.same_iff.mpr rfl) varied
  obtain ⟨left, top⟩ := clamped ▸ r.clampedTo_fits b.size
  rw [cloneRegion_eq_blit, clamped]
  exact copied.target q _ inside (Rect.sourceOf_zero left top inside)

/-- A copy between bitmaps of one depth and one palette is exact, and so is a region,
except that on a detour the palette must show two colours; if it shows only one, the
detour leaves index zero in every pixel of the destination. -/
theorem blit_like_for_like (dst_reachable : dst.Reachable) (src_reachable : src.Reachable)
    (depth : src.depth = dst.depth) (palette : dst.palette.same src.palette = true) :
    (∀ r p, (dst.Detours src r p → dst.effectivePalette.Varied) →
      Copied (dst.blit src r p) dst src r p) ∧
    (∀ r p, dst.Detours src r p → ¬dst.effectivePalette.Varied → ∀ q, q.inside dst.size = true →
      (dst.blit src r p).getIndex q = some 0) ∧
    ∀ r c, r.clampedTo src.size = c → (src.cloneRegion r).size = c.size ∧
      (((blank c.size src.depth src.palette).Detours src c Vec2.zero → src.effectivePalette.Varied) →
        ∀ q, q.inside c.size = true →
          (src.cloneRegion r).getIndex q = src.getIndex (c.positionOf q) ∧
            (src.cloneRegion r).colorAt q = src.colorAt (c.positionOf q)) := by
  have wf := dst_reachable.wellFormed
  have src_wf := src_reachable.wellFormed
  refine ⟨fun r p => copied_blit wf src_wf depth palette, ?_, ?_⟩
  · intro r p detours plain q
    exact getIndex_blit_plain wf src_wf depth detours plain
  · rintro r c rfl
    refine ⟨(sameShape_cloneRegion src_wf r).size, ?_⟩
    intro varied q
    exact reads_cloneRegion src_wf rfl varied

/-- A pixel moved over the start of a byte with the palette of black and white. -/
theorem blit_like_for_like_unaligned :
    let src := (blank ⟨4, 1⟩ .mono1 Palette.empty).edits [.setIndex ⟨2, 0⟩ 1]
    let dst := blank ⟨9, 1⟩ .mono1 Palette.empty
    let r := Rect.ofParts 1 0 3 1
    dst.Reachable ∧ src.Reachable ∧ src.depth = dst.depth ∧ dst.palette.same src.palette = true ∧
      dst.effectivePalette.Varied ∧ (dst.blit src r ⟨7, 0⟩).getIndex ⟨8, 0⟩ = some 1 := by
  intro src dst r
  have dst_reachable : dst.Reachable := reachable_blank _ (by decide)
  have src_reachable : src.Reachable := (reachable_blank _ (by decide)).edits _ (by simp)
  have varied : dst.effectivePalette.Varied := ⟨1, by decide, by decide +kernel⟩
  have palette : dst.palette.same src.palette = true := by decide +kernel
  have depth : src.depth = dst.depth := by decide +kernel
  refine ⟨dst_reachable, src_reachable, depth, palette, varied, ?_⟩
  obtain ⟨copied, -, -⟩ := blit_like_for_like dst_reachable src_reachable depth palette
  have pixel := (copied r ⟨7, 0⟩ fun _ => varied).target ⟨8, 0⟩ ⟨2, 0⟩ (by decide) (by decide +kernel)
  rw [pixel.1]
  decide +kernel

/-- With two black entries a set bit is lost when it is copied to a column that does not
start a byte. -/
theorem not_copied_blit_black :
    ¬∀ (dst src : Bitmap) (r : Rect) (p : Vec2), dst.Reachable → src.Reachable →
      src.depth = dst.depth → dst.palette.same src.palette = true →
      Copied (dst.blit src r p) dst src r p := by
  intro promise
  let black : Palette := ⟨Palette.empty.cells, 2, by decide⟩
  let dst := blank ⟨2, 1⟩ .mono1 black
  let src := dst.edits [.setIndex ⟨0, 0⟩ 1]
  have dst_reachable : dst.Reachable := reachable_blank _ (by decide)
  have src_reachable : src.Reachable := dst_reachable.edits _ (by simp)
  have copied := promise dst src (.ofParts 0 0 1 1) ⟨1, 0⟩ dst_reachable src_reachable
    (by decide +kernel) (by decide +kernel)
  have pixel := (copied.target ⟨1, 0⟩ ⟨0, 0⟩ (by decide) (by decide +kernel)).1
  have before : src.getIndex ⟨0, 0⟩ = some 1 := by decide +kernel
  have after : (dst.blit src (.ofParts 0 0 1 1) ⟨1, 0⟩).getIndex ⟨1, 0⟩ = some 0 := by
    decide +kernel
  rw [before, after] at pixel
  exact absurd pixel (by decide)

end Bitmap

end TileEngine
