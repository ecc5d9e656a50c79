import TileEngine.Proofs.Bitmap.Reachable

/-!
Conversions are exact. Whichever of the four routes a conversion takes, there is one law for
its pixels: on an indexed result a pixel stores the entry that is nearest to the colour the
source shows, in true colour the colour itself. Indices past the palette show black, and an
empty palette of a single-bit bitmap shows black and white, on either side. So the table between
two indexed depths stores what a detour by way of true colour would store.
-/

namespace TileEngine

namespace Bitmap

variable {b out : Bitmap} {depth : Depth} {palette between : Palette} {q : Vec2}

/-! ## The law of one pixel -/

theorem size_convertInto (wf : b.WellFormed) (fits : palette.len ≤ depth.maxPalette) :
    (b.convertInto depth palette).size = b.size :=
  (sameShape_convertInto wf fits).size

/-- The colours of a conversion are those of a bitmap with its depth and palette. -/
theorem sameColors_convertInto (wf : b.WellFormed) (fits : palette.len ≤ depth.maxPalette) :
    SameColors (b.convertInto depth palette) (blank b.size depth palette) :=
  .of_shape (sameShape_convertInto wf fits)

/-- A pixel of a conversion shows what the result makes of the colour of the source. -/
theorem colorAt_convertInto (wf : b.WellFormed) (fits : palette.len ≤ depth.maxPalette)
    (q : Vec2) :
    (b.convertInto depth palette).colorAt q = (b.colorAt q).map fun c =>
      (blank b.size depth palette).decode ((blank b.size depth palette).encode c) := by
  rw [colorAt_eq, colorAt_eq, size_convertInto wf fits]
  split
  · rename_i inside
    obtain ⟨hx, hy⟩ := Vec2.inside_iff.mp inside
    rw [shownAt, stored_convertInto fits hx hy, (sameColors_convertInto wf fits).decode]
    rfl
  · rfl

/-- In true colour every colour is kept. -/
theorem colorAt_convert_trueColor32 (wf : b.WellFormed) (palette : Palette) (q : Vec2) :
    (b.convertInto .trueColor32 palette).colorAt q = b.colorAt q := by
  rw [colorAt_convertInto wf palette.len_le]
  simp only [encode_trueColor32 (b := blank b.size .trueColor32 palette) rfl, decode, Option.map_id']

/-- An indexed conversion stores the nearest entry of its own palette. -/
theorem getIndex_convertInto (wf : b.WellFormed) (fits : palette.len ≤ depth.maxPalette)
    (indexed : depth.isIndexed) (q : Vec2) :
    (b.convertInto depth palette).getIndex q =
      (b.colorAt q).map (b.convertInto depth palette).effectivePalette.nearestIndex := by
  have shape := sameShape_convertInto wf fits
  by_cases inside : q.inside b.size = true
  · obtain ⟨hx, hy⟩ := Vec2.inside_iff.mp inside
    rw [colorAt_eq, if_pos inside, shape.effectivePalette]
    apply getIndex_eq_some_iff.mpr
    refine ⟨shape.size ▸ inside, ?_⟩
    rw [stored_convertInto fits hx hy]
    exact encode_indexed indexed _
  · have outside : q.inside (b.convertInto depth palette).size = false := by
      rw [size_convertInto wf fits]
      simpa using inside
    rw [colorAt_eq, if_neg inside, getIndex, outside, Bool.and_false]
    rfl

/-! ## The detour by way of true colour -/

/-- An indexed conversion has no padding but zero, whatever the padding of its source. -/
theorem canonical_convertInto (fits : palette.len ≤ depth.maxPalette) (indexed : depth.isIndexed) :
    (b.convertInto depth palette).Canonical := by
  have start := canonical_blank b.size fits
  unfold convertInto
  rw [indexed]
  cases b.depth.isIndexed with
  | false =>
    dsimp only
    rw [scan_quantize]
    exact start.scan_indexes _
  | true => exact start.scan_indexes _

/-- A conversion of the true-colour copy of a bitmap is the conversion of the bitmap itself. -/
theorem convertInto_convert_trueColor32 (wf : b.WellFormed) (fits : palette.len ≤ depth.maxPalette)
    (indexed : depth.isIndexed) (between : Palette) :
    (b.convertInto .trueColor32 between).convertInto depth palette = b.convertInto depth palette := by
  have wide := sameShape_convert_trueColor32 wf between
  have wide_wf := wide.wellFormed (wellFormed_blank b.size between.len_le)
  have size : (b.convertInto .trueColor32 between).size = b.size := wide.size
  have direct := sameShape_convertInto wf fits
  have staged := sameShape_convertInto wide_wf fits
  rw [size] at staged
  apply (canonical_convertInto fits indexed).eq_of_stored (canonical_convertInto fits indexed)
    (staged.trans direct.symm)
  intro x hx y hy
  rw [size_convertInto wf fits] at hx hy
  have kept : (b.convertInto .trueColor32 between).shownAt x y = b.shownAt x y := by
    rw [shownAt, stored_convert_trueColor32 b between hx hy, decode]
  rw [stored_convertInto fits (size.symm ▸ hx) (size.symm ▸ hy),
    stored_convertInto (b := b) fits hx hy, kept, size]

/-! ## Conversions that are asked for -/

/-- A bitmap already has a depth and a palette with these active colours. -/
def Has (b : Bitmap) (depth : Depth) (palette : Palette) : Prop :=
  b.depth = depth ∧ b.palette.active = palette.active

instance (b : Bitmap) (depth : Depth) (palette : Palette) : Decidable (b.Has depth palette) :=
  inferInstanceAs (Decidable (_ ∧ _))

/-- The three outcomes of a conversion. -/
theorem convertWith_eq (b : Bitmap) (depth : Depth) (palette : Palette) :
    b.convertWith depth palette =
      if b.Has depth palette then .ok none
      else if palette.len ≤ depth.maxPalette then .ok (some (b.convertInto depth palette))
      else .error (.invalidPaletteSize depth palette.len depth.maxPalette) := by
  have already :
      (decide (depth = b.depth) && b.palette.same palette) = true ↔ b.Has depth palette := by
    rw [Bool.and_eq_true, decide_eq_true_eq, Palette.same_iff, Has, eq_comm (a := depth)]
  unfold convertWith
  by_cases has : b.Has depth palette
  · rw [if_pos (already.mpr has), if_pos has]
    rfl
  · rw [if_neg (mt already.mp has), if_neg has]
    by_cases fits : palette.len ≤ depth.maxPalette
    · rw [if_pos fits, checkPalette_eq_ok_iff.mpr fits]
      rfl
    · rw [if_neg fits, checkPalette, if_pos (Nat.lt_of_not_le fits)]
      rfl

theorem convertWith_of_fits (has : ¬b.Has depth palette) (fits : palette.len ≤ depth.maxPalette) :
    b.convertWith depth palette = .ok (some (b.convertInto depth palette)) := by
  rw [convertWith_eq, if_neg has, if_pos fits]

/-- A conversion of a bitmap: well formed, of the extent of the bitmap and with the depth and the
palette of the target. A pixel stores the nearest entry to the colour that the bitmap shows, or
this colour. -/
structure Converted (b : Bitmap) (target : Depth) (colors : Palette) (out : Bitmap) : Prop where
  wellFormed : out.WellFormed
  canonical : b.Canonical → out.Canonical
  size : out.size = b.size
  depth : out.depth = target
  palette : out.palette = colors
  index : target.isIndexed →
    ∀ q, out.getIndex q = (b.colorAt q).map out.effectivePalette.nearestIndex
  color : target = .trueColor32 → ∀ q, out.colorAt q = b.colorAt q

theorem converted_convertInto (wf : b.WellFormed) (fits : palette.len ≤ depth.maxPalette) :
    Converted b depth palette (b.convertInto depth palette) := by
  have shape := sameShape_convertInto wf fits
  refine ⟨shape.wellFormed (wellFormed_blank b.size fits), fun h => h.convertInto fits, shape.size,
    shape.depth, shape.palette, fun indexed => getIndex_convertInto wf fits indexed, ?_⟩
  rintro rfl
  exact colorAt_convert_trueColor32 wf palette

/-- A conversion changes nothing exactly when the bitmap has depth and palette already; else it
is refused exactly when the depth cannot address the palette; and else it gives a bitmap that
shows what the source shows, as far as the palette has it. Between indexed depths the way over a
true-colour copy, with any palette, gives the same bitmap. -/
theorem convertWith_exact (wf : b.WellFormed) (depth : Depth) (palette : Palette) :
    (b.convertWith depth palette = .ok none ↔ b.Has depth palette) ∧
    (∀ e, b.convertWith depth palette = .error e ↔
      ¬b.Has depth palette ∧ depth.maxPalette < palette.len ∧
        e = .invalidPaletteSize depth palette.len depth.maxPalette) ∧
    (¬b.Has depth palette → palette.len ≤ depth.maxPalette →
      ∃ out, b.convertWith depth palette = .ok (some out) ∧ Converted b depth palette out ∧
        (b.depth.isIndexed → depth.isIndexed → ∀ between, ∃ wide,
          b.convertWith .trueColor32 between = .ok (some wide) ∧
            wide.convertWith depth palette = .ok (some out))) := by
  have outcomes := convertWith_eq b depth palette
  refine ⟨?_, ?_, ?_⟩
  · rw [outcomes]
    by_cases has : b.Has depth palette
    · simp only [has, if_true]
    · by_cases fits : palette.len ≤ depth.maxPalette <;> simp [has, fits]
  · intro e
    rw [outcomes, ← Nat.not_le]
    by_cases has : b.Has depth palette
    · simp [has]
    · by_cases fits : palette.len ≤ depth.maxPalette <;> simp [has, fits, eq_comm]
  · intro has fits
    refine ⟨_, convertWith_of_fits has fits, converted_convertInto wf fits, ?_⟩
    intro source target between
    have wide : (b.convertInto .trueColor32 between).depth = .trueColor32 :=
      (sameShape_convert_trueColor32 wf between).depth
    have widened : ¬b.Has .trueColor32 between := by
      intro already
      rw [already.1] at source
      contradiction
    have narrowed : ¬(b.convertInto .trueColor32 between).Has depth palette := by
      intro already
      rw [← already.1, wide] at target
      contradiction
    refine ⟨_, convertWith_of_fits widened between.len_le, ?_⟩
    rw [convertWith_of_fits narrowed fits, convertInto_convert_trueColor32 wf fits target]

/-- A white entry and an index past it, in black and white: directly and by way of a copy. -/
theorem convertWith_exact_past_palette :
    let white : Palette := ⟨Palette.writeFrom Palette.empty.cells 0 [.white], 1, by decide⟩
    let b := (blank ⟨2, 1⟩ .indexed8 white).edits [.setIndex ⟨1, 0⟩ 5]
    b.WellFormed ∧ ∃ out, b.convertWith .mono1 Palette.empty = .ok (some out) ∧
      out.getIndex ⟨0, 0⟩ = some 1 ∧ out.getIndex ⟨1, 0⟩ = some 0 ∧
      ∃ wide, b.convertWith .trueColor32 white = .ok (some wide) ∧
        wide.convertWith .mono1 Palette.empty = .ok (some out) := by
  intro white b
  have wf : b.WellFormed := ((reachable_blank _ (by decide)).edits _ (by simp)).wellFormed
  obtain ⟨-, -, converts⟩ := convertWith_exact wf .mono1 Palette.empty
  obtain ⟨out, direct, converted, staged⟩ := converts (by decide +kernel) (by decide)
  have monochrome : out.effectivePalette = Palette.monochrome := by
    rw [effectivePalette, converted.depth, converted.palette]
    rfl
  refine ⟨wf, out, direct, ?_, ?_, staged (by decide +kernel) rfl white⟩
  · rw [converted.index rfl, monochrome]
    decide +kernel
  · rw [converted.index rfl, monochrome]
    decide +kernel

end Bitmap

end TileEngine
