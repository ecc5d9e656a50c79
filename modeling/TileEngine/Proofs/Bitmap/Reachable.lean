import TileEngine.Proofs.Bitmap.Canonical
import Mathlib.Algebra.Order.Floor.Div

/-!
Bitmaps that a program can come to hold. A bitmap is made by a constructor, from an
image, as a region or a conversion of another one, and is then changed by calls. A
call that is refused changes nothing; every other one keeps size, depth and zeroed
padding. So all reachable bitmaps are canonical, and comparing two of them compares
what they show.
-/

namespace TileEngine

namespace Bitmap

/-- A call that may change a bitmap. The source of `draw` is any surface. -/
inductive Edit : Type 1 where
  | setIndex (p : Vec2) (index : UInt8)
  | setColor (p : Vec2) (color : Color)
  | fill (color : Color)
  | setPalette (palette : Palette)
  | setPaletteColor (index : Nat) (color : Color)
  | blit (source : Bitmap) (r : Rect) (p : Vec2)
  | blitWithin (r : Rect) (p : Vec2)
  | draw {σ : Type} [Surface σ] (source : σ) (r : Rect) (p : Vec2)

/-- The bitmap that a call leaves behind: its result, or `b` when it is refused. -/
def orElse (b : Bitmap) : Except BitmapError Bitmap → Bitmap
  | .ok changed => changed
  | .error _ => b

/-- The bitmap after a call. -/
def edit (b : Bitmap) : Edit → Bitmap
  | .setIndex p index => b.orElse (b.setIndex p index)
  | .setColor p color => b.setColor p color
  | .fill color => b.fill color
  | .setPalette palette => b.orElse (b.setPalette palette)
  | .setPaletteColor index color => b.orElse (b.setPaletteColor index color)
  | .blit source r p => b.blit source r p
  | .blitWithin r p => b.blitWithin r p
  | @Edit.draw _ _ source r p => Surface.blit b source r p

/-- The bitmap after calls one after the other. -/
def edits (b : Bitmap) (calls : List Edit) : Bitmap := calls.foldl edit b

/-- The bitmaps that constructors, conversions and calls lead to. -/
inductive Reachable : Bitmap → Prop
  | new {size : Vec2} {depth : Depth} {paletteLen : Nat} {b : Bitmap}
      (made : Bitmap.new size depth paletteLen = .ok b) : Reachable b
  | withPalette {size : Vec2} {depth : Depth} {palette : Palette} {b : Bitmap}
      (made : Bitmap.withPalette size depth palette = .ok b) : Reachable b
  | ofRgba {image : RgbaImage} {b : Bitmap} (made : Bitmap.ofRgba image = .ok b) : Reachable b
  | cloneRegion {b : Bitmap} (source : Reachable b) (r : Rect) : Reachable (b.cloneRegion r)
  | convert {b out : Bitmap} {depth : Depth} (source : Reachable b)
      (made : b.convert? depth = some out) : Reachable out
  | convertWith {b out : Bitmap} {depth : Depth} {palette : Palette} (source : Reachable b)
      (made : b.convertWith depth palette = .ok (some out)) : Reachable out
  | edit {b : Bitmap} (start : Reachable b) (e : Edit)
      (sources : ∀ source r p, e = .blit source r p → Reachable source) : Reachable (b.edit e)

/-! ## Calls that are not refused -/

theorem checkPalette_eq_ok_iff {depth : Depth} {requested : Nat} :
    checkPalette depth requested = .ok () ↔ requested ≤ depth.maxPalette := by
  simp [checkPalette]

/-- A check that a result depends on has passed. -/
theorem fits_of_checked {α : Type} {depth : Depth} {requested : Nat}
    {rest : Except BitmapError α} {out : α}
    (made : (do checkPalette depth requested; rest) = .ok out) :
    requested ≤ depth.maxPalette ∧ rest = .ok out := by
  cases checked : checkPalette depth requested with
  | ok =>
    rw [checked] at made
    exact ⟨checkPalette_eq_ok_iff.mp checked, made⟩
  | error e =>
    rw [checked] at made
    contradiction

theorem withPalette_eq_ok {size : Vec2} {depth : Depth} {palette : Palette} {b : Bitmap}
    (made : Bitmap.withPalette size depth palette = .ok b) :
    palette.len ≤ depth.maxPalette ∧ b = blank size depth palette := by
  obtain ⟨fits, rest⟩ := fits_of_checked made
  exact ⟨fits, (Except.ok.inj rest).symm⟩

theorem new_eq_ok {size : Vec2} {depth : Depth} {paletteLen : Nat} {b : Bitmap}
    (made : Bitmap.new size depth paletteLen = .ok b) :
    ∃ palette : Palette, palette.len ≤ depth.maxPalette ∧ b = blank size depth palette := by
  obtain ⟨fits, rest⟩ := fits_of_checked made
  unfold Palette.ofLen Palette.resize at rest
  split at rest
  · exact ⟨_, fits, (Except.ok.inj rest).symm⟩
  · contradiction

theorem setPalette_eq_ok {b out : Bitmap} {palette : Palette}
    (made : b.setPalette palette = .ok out) :
    palette.len ≤ b.depth.maxPalette ∧ out = { b with palette := palette } := by
  obtain ⟨fits, rest⟩ := fits_of_checked made
  exact ⟨fits, (Except.ok.inj rest).symm⟩

theorem setPaletteColor_eq_ok {b out : Bitmap} {index : Nat} {color : Color}
    (made : b.setPaletteColor index color = .ok out) :
    ∃ palette : Palette, palette.len = b.palette.len ∧ out = { b with palette := palette } := by
  unfold setPaletteColor Palette.set at made
  split at made
  · refine ⟨_, ?_, (Except.ok.inj made).symm⟩
    rfl
  · contradiction

theorem setIndex_eq_ok {b out : Bitmap} {p : Vec2} {index : UInt8}
    (made : b.setIndex p index = .ok out) :
    out = if p.inside b.size then b.writeIndex p.x.toNat p.y.toNat index else b := by
  unfold setIndex at made
  split at made
  · contradiction
  · split at made
    · rename_i inside
      rw [if_pos inside]
      exact (Except.ok.inj made).symm
    · rename_i outside
      rw [if_neg outside]
      exact (Except.ok.inj made).symm

theorem convertWith_eq_ok {b out : Bitmap} {depth : Depth} {palette : Palette}
    (made : b.convertWith depth palette = .ok (some out)) :
    palette.len ≤ depth.maxPalette ∧ out = b.convertInto depth palette := by
  unfold convertWith at made
  split at made
  · cases made
  · obtain ⟨fits, rest⟩ := fits_of_checked made
    exact ⟨fits, (Option.some.inj (Except.ok.inj rest)).symm⟩

theorem ofRgba_eq_ok {image : RgbaImage} {b : Bitmap} (made : Bitmap.ofRgba image = .ok b) :
    ∃ (size : Vec2) (color : Nat → Nat → Color),
      b = scan size (fun x y out => out.writeTexel x y (color x y))
        (blank size .trueColor32 Palette.empty) := by
  unfold Bitmap.ofRgba at made
  split at made
  · exact ⟨_, _, (Except.ok.inj made).symm⟩
  · contradiction

/-- The palette of an automatic conversion is one that the depth can address. -/
theorem len_paletteFor_le (b : Bitmap) (depth : Depth) :
    (b.paletteFor depth).len ≤ depth.maxPalette := by
  cases depth with
  | mono1 =>
    simp only [paletteFor]
    split
    · decide
    · rename_i small
      simp only [Bool.or_eq_true, decide_eq_true_eq, not_or] at small
      exact Nat.le_of_not_lt small.2
  | indexed8 => exact Palette.len_le _
  | trueColor32 => exact Palette.len_le _

/-! ## One call -/

section

variable {a b : Bitmap}

/-- What a call has to keep to keep whatever it leads to. -/
theorem orElse_keeps (inv : Bitmap → Prop) {result : Except BitmapError Bitmap}
    (holds : inv b) (keep : ∀ changed, result = .ok changed → inv changed) :
    inv (b.orElse result) := by
  cases result with
  | ok changed => exact keep changed rfl
  | error _ => exact holds

theorem Canonical.edit (h : b.Canonical) (e : Edit)
    (sources : ∀ source r p, e = .blit source r p → source.Canonical) : (b.edit e).Canonical := by
  cases e with
  | setIndex p index =>
    refine orElse_keeps Canonical h fun changed made => ?_
    rw [setIndex_eq_ok made]
    split
    · rename_i inside
      exact h.writeIndex (Vec2.inside_iff.mp inside).1 index
    · exact h
  | setColor p color => exact h.setColor p color
  | fill color => exact h.fill color
  | setPalette palette =>
    refine orElse_keeps Canonical h fun changed made => ?_
    obtain ⟨fits, rfl⟩ := setPalette_eq_ok made
    exact h.recolor fits
  | setPaletteColor index color =>
    refine orElse_keeps Canonical h fun changed made => ?_
    obtain ⟨palette, len, rfl⟩ := setPaletteColor_eq_ok made
    exact h.recolor (len ▸ h.palette_fits)
  | blit source r p => exact h.blit (sources source r p rfl) r p
  | blitWithin r p => exact (h.blitWithin r p).1
  | draw source r p => exact h.surface_blit source r p

/-- A blit exchanges the buffer and nothing else, whatever the bitmaps hold. -/
theorem blit_eq_pixels (dst src : Bitmap) (r : Rect) (p : Vec2) :
    ∃ pixels, dst.blit src r p = { dst with pixels := pixels } := by
  cases clipped : Rect.clip src.size dst.size r p with
  | none =>
    rw [blit_of_clip_none clipped]
    exact ⟨_, rfl⟩
  | some c =>
    rcases blit_cases clipped with ⟨-, route⟩ | route | ⟨-, -, route⟩ | ⟨-, route⟩ <;> rw [route]
    · unfold overlay
      split <;> exact ⟨_, rfl⟩
    · exact ⟨_, rfl⟩
    · exact ⟨_, rfl⟩
    · unfold overlaySameDepth
      split <;> exact ⟨_, rfl⟩

/-- No call changes size or depth, also when a source of a copy could not be reached. -/
theorem size_depth_edit (b : Bitmap) (e : Edit) :
    (b.edit e).size = b.size ∧ (b.edit e).depth = b.depth := by
  have of_shape {out : Bitmap} (shape : SameShape out b) : out.size = b.size ∧ out.depth = b.depth :=
    ⟨shape.size, shape.depth⟩
  have refused {result : Except BitmapError Bitmap} (keep : ∀ changed, result = .ok changed →
      changed.size = b.size ∧ changed.depth = b.depth) :
      (b.orElse result).size = b.size ∧ (b.orElse result).depth = b.depth :=
    orElse_keeps (fun out => out.size = b.size ∧ out.depth = b.depth) ⟨rfl, rfl⟩ keep
  cases e with
  | setIndex p index =>
    refine refused fun changed made => ?_
    rw [setIndex_eq_ok made]
    split
    · exact of_shape (sameShape_writeIndex b _ _ _)
    · exact ⟨rfl, rfl⟩
  | setColor p color => exact of_shape (sameShape_setColor b p color)
  | fill color => exact of_shape (sameShape_fill b color)
  | setPalette palette =>
    refine refused fun changed made => ?_
    obtain ⟨-, rfl⟩ := setPalette_eq_ok made
    exact ⟨rfl, rfl⟩
  | setPaletteColor index color =>
    refine refused fun changed made => ?_
    obtain ⟨palette, -, rfl⟩ := setPaletteColor_eq_ok made
    exact ⟨rfl, rfl⟩
  | blit source r p =>
    obtain ⟨pixels, equal⟩ := blit_eq_pixels b source r p
    rw [edit, equal]
    exact ⟨rfl, rfl⟩
  | blitWithin r p =>
    rw [edit, blitWithin]
    split
    · exact ⟨rfl, rfl⟩
    · split
      · obtain ⟨pixels, equal⟩ := blit_eq_pixels b (b.cloneRegion _) (b.cloneRegion _).bounds p
        rw [equal]
        exact ⟨rfl, rfl⟩
      · exact ⟨rfl, rfl⟩
  | draw source r p => exact of_shape (sameShape_surface_blit b source r p)

/-! ## Runs of calls -/

theorem size_depth_edits (b : Bitmap) (calls : List Edit) :
    (b.edits calls).size = b.size ∧ (b.edits calls).depth = b.depth := by
  induction calls generalizing b with
  | nil => exact ⟨rfl, rfl⟩
  | cons call rest ih =>
    obtain ⟨size, depth⟩ := size_depth_edit b call
    obtain ⟨rest_size, rest_depth⟩ := ih (b.edit call)
    exact ⟨rest_size.trans size, rest_depth.trans depth⟩

/-- Every reachable bitmap is canonical. -/
theorem Reachable.canonical (h : b.Reachable) : b.Canonical := by
  induction h with
  | new made =>
    obtain ⟨palette, fits, rfl⟩ := new_eq_ok made
    exact canonical_blank _ fits
  | withPalette made =>
    obtain ⟨fits, rfl⟩ := withPalette_eq_ok made
    exact canonical_blank _ fits
  | ofRgba made =>
    obtain ⟨size, color, rfl⟩ := ofRgba_eq_ok made
    exact (canonical_blank size (Nat.zero_le _)).scan_texels rfl color
  | cloneRegion _ r ih => exact ih.cloneRegion r
  | convert _ made ih =>
    unfold convert? at made
    split at made
    · contradiction
    · rw [← Option.some.inj made]
      exact ih.convertInto (len_paletteFor_le _ _)
  | convertWith _ made ih =>
    obtain ⟨fits, rfl⟩ := convertWith_eq_ok made
    exact ih.convertInto fits
  | edit _ e _ ih sources => exact ih.edit e sources

theorem Reachable.wellFormed (h : b.Reachable) : b.WellFormed := h.canonical.toWellFormed

theorem reachable_blank (size : Vec2) {depth : Depth} {palette : Palette}
    (fits : palette.len ≤ depth.maxPalette) : (blank size depth palette).Reachable := by
  have made : Bitmap.withPalette size depth palette = .ok (blank size depth palette) := by
    rw [Bitmap.withPalette, checkPalette_eq_ok_iff.mpr fits]
    rfl
  exact .withPalette made

/-- Calls whose sources are reachable lead to a reachable bitmap. -/
theorem Reachable.edits (h : b.Reachable) (calls : List Edit)
    (sources : ∀ source r p, .blit source r p ∈ calls → source.Reachable) :
    (b.edits calls).Reachable := by
  induction calls generalizing b with
  | nil => exact h
  | cons call rest ih =>
    apply ih
    · apply h.edit
      intro source r p equal
      exact sources source r p (by simp [equal])
    · intro source r p member
      exact sources source r p (by simp [member])

/-- The buffer of a reachable bitmap is the one its picture asks for. Each row has
its bits rounded up to whole 32-bit words, the buffer has these rows and no other
byte, the palette is one that the depth can address, and all padding is zero; no run
of calls changes size or depth. Two reachable bitmaps are equal exactly when they agree
on size, depth and active palette and on the stored index or colour at every position. -/
theorem Reachable.representation (h : b.Reachable) :
    b.stride = (b.size.x.toNat * b.depth.bits ⌈/⌉ 32) * 4 ∧
      b.pixels.size = b.stride * b.size.y.toNat ∧
      b.palette.len ≤ b.depth.maxPalette ∧
      (∀ y < b.size.y.toNat, ∀ j < 8 * b.stride, b.depth.IsPadding b.size.x j →
        b.bitAt y j = false) ∧
      (∀ calls, (b.edits calls).size = b.size ∧ (b.edits calls).depth = b.depth) ∧
      ∀ a : Bitmap, a.Reachable →
        (a.same b = true ↔
          a.size = b.size ∧ a.depth = b.depth ∧ a.palette.active = b.palette.active ∧
            ∀ q, if b.depth.isIndexed then a.getIndex q = b.getIndex q
              else a.colorAt q = b.colorAt q) := by
  have canonical := h.canonical
  refine ⟨?_, canonical.bytes, canonical.palette_fits, canonical.padding, size_depth_edits b, ?_⟩
  · rw [stride, Depth.stride, Nat.ceilDiv_eq_add_pred_div, Nat.add_sub_assoc (by decide)]
  · intro a reachable
    exact reachable.canonical.same_iff canonical

/-- One picture in two ways: filled and then cleared at one pixel, or set pixel by
pixel, with a call that is outside the bitmap. -/
theorem Reachable.representation_dots :
    let start := blank ⟨3, 1⟩ .mono1 Palette.empty
    let filled := start.edits [.fill .white, .setIndex ⟨0, 0⟩ 0]
    let dotted := start.edits [.setIndex ⟨1, 0⟩ 1, .setIndex ⟨2, 0⟩ 1, .setIndex ⟨7, 0⟩ 1]
    filled.Reachable ∧ dotted.Reachable ∧ dotted.pixels.size = 4 ∧
      ∀ q, filled.getIndex q = dotted.getIndex q := by
  intro start filled dotted
  have reachable : start.Reachable := reachable_blank _ (by decide)
  have first : filled.Reachable := reachable.edits _ (by simp)
  have second : dotted.Reachable := reachable.edits _ (by simp)
  obtain ⟨-, bytes, -, -, -, equality⟩ := second.representation
  have same : filled.same dotted = true := by decide +kernel
  refine ⟨first, second, bytes.trans (by decide +kernel), ?_⟩
  exact ((equality filled first).mp same).2.2.2

end

end Bitmap

end TileEngine
