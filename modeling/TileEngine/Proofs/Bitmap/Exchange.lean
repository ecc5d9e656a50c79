import TileEngine.Bitmap.Rgba
import TileEngine.Proofs.Bitmap.Converted

/-!
The exchange with RGBA images. An image that is drawn from a bitmap pixel by pixel, and made into
a bitmap again, is the conversion of the bitmap to true colour without a palette. The other
way round, an image that goes through a bitmap comes back with full opacity. So the two ways to
true colour agree byte for byte, also on indices past the palette.
-/

namespace TileEngine

/-- A pixel with full opacity. -/
def Rgba.solid (p : Rgba) : Rgba := { p with alpha := 255 }

namespace RgbaImage

/-- The image has a pixel for every column and row. There may be more of them, which have no
place. -/
def Complete (image : RgbaImage) : Prop := image.width * image.height ≤ image.pixels.size

instance (image : RgbaImage) : Decidable image.Complete := inferInstanceAs (Decidable (_ ≤ _))

/-- The pixels that have a place, with full opacity. -/
def solid (image : RgbaImage) : RgbaImage :=
  { image with pixels := (image.pixels.take (image.width * image.height)).map Rgba.solid }

/-- An image is given by its extent and by its pixels, as many as it has places for. -/
theorem eq_of_get? {a b : RgbaImage} (width : a.width = b.width) (height : a.height = b.height)
    (sizes : a.pixels.size = b.pixels.size) (exact : b.pixels.size = b.width * b.height)
    (pixels : ∀ x < b.width, ∀ y < b.height, a.get? x y = b.get? x y) : a = b := by
  obtain ⟨width', height', pixels'⟩ := a
  obtain rfl : width' = b.width := width
  obtain rfl : height' = b.height := height
  obtain rfl : pixels' = b.pixels := by
    apply Array.ext sizes
    intro i hi hi'
    rw [exact] at hi'
    have positive : 0 < b.width := by
      apply Nat.pos_of_ne_zero
      intro zero
      rw [zero, Nat.zero_mul] at hi'
      contradiction
    have column : i % b.width < b.width := Nat.mod_lt i positive
    have row : i / b.width < b.height := Nat.div_lt_of_lt_mul hi'
    have equal := pixels _ column _ row
    rw [← exact] at hi'
    simpa [get?, column, row, Nat.div_add_mod', hi, hi'] using equal
  rfl

theorem fits_iff {image : RgbaImage} :
    image.fits = true ↔ image.width ≤ 65535 ∧ image.height ≤ 65535 := by
  simp only [fits, Bool.and_eq_true, decide_eq_true_eq]
  omega

end RgbaImage

namespace Bitmap

variable {b : Bitmap} {image : RgbaImage}

/-! ## An image from a bitmap -/

/-- A scan that appends a value for every position puts them in row order. -/
theorem scan_push {α : Type} (size : Vec2) (value : Nat → Nat → α) :
    (scan size (fun x y out => out.push (value x y)) #[]).size = size.x.toNat * size.y.toNat ∧
      ∀ x < size.x.toNat, ∀ y < size.y.toNat,
        (scan size (fun x y out => out.push (value x y)) #[])[y * size.x.toNat + x]? =
          some (value x y) := by
  unfold scan
  generalize size.x.toNat = width
  generalize size.y.toNat = height
  simp only [List.foldl_push_eq_append]
  -- the rows so far have all their pixels
  induction height with
  | zero => simp
  | succ height ih =>
    obtain ⟨rows, placed⟩ := ih
    simp only [List.range_succ (n := height), List.foldl_append, List.foldl_cons, List.foldl_nil]
    refine ⟨by simp [rows, Nat.mul_succ], fun x hx y hy => ?_⟩
    rcases Nat.lt_succ_iff_lt_or_eq.mp hy with earlier | rfl
    · rw [Array.getElem?_append_left, placed x hx y earlier]
      rw [rows, Nat.mul_comm width]
      exact address_lt earlier hx (Nat.mul_comm ..)
    · rw [Array.getElem?_append_right (by rw [rows, Nat.mul_comm]; exact Nat.le_add_right ..), rows,
        Nat.mul_comm width, Nat.add_sub_cancel_left]
      simp [hx]

theorem get?_toRgba {x y : Nat} (hx : x < b.size.x.toNat) (hy : y < b.size.y.toNat) :
    b.toRgba.get? x y = some (Rgba.opaqueOf (b.shownAt x y)) := by
  have shown : b.colorAt (Vec2.ofNats x y) = some (b.shownAt x y) := by
    rw [colorAt_eq, if_pos (Vec2.inside_ofNats hx hy), Vec2.toNat_ofNats_x hx,
      Vec2.toNat_ofNats_y hy]
  have pixel := (scan_push b.size fun x y =>
    Rgba.opaqueOf ((b.colorAt (Vec2.ofNats x y)).getD .black)).2 x hx y hy
  rw [shown] at pixel
  rw [RgbaImage.get?, if_pos (by simpa [toRgba] using ⟨hx, hy⟩)]
  exact pixel

theorem size_toRgba (b : Bitmap) : b.toRgba.pixels.size = b.size.x.toNat * b.size.y.toNat :=
  (scan_push b.size _).1

theorem fits_toRgba (b : Bitmap) : b.toRgba.fits = true :=
  RgbaImage.fits_iff.mpr ⟨Nat.le_of_lt_succ b.size.x.toNat_lt, Nat.le_of_lt_succ b.size.y.toNat_lt⟩

/-! ## A bitmap from an image -/

/-- The extent of an image in words. -/
def sizeOf (image : RgbaImage) : Vec2 := Vec2.ofNats image.width image.height

/-- A true-colour bitmap without a palette that has the colours of an image. -/
structure Depicts (b : Bitmap) (image : RgbaImage) : Prop where
  canonical : b.Canonical
  shape : SameShape b (blank (sizeOf image) .trueColor32 Palette.empty)
  color : ∀ x < b.size.x.toNat, ∀ y < b.size.y.toNat,
    b.stored x y = .inr ((image.get? x y).getD (Rgba.opaqueOf .black)).color

theorem ofRgba_of_fits (fits : image.fits = true) :
    ∃ b, ofRgba image = .ok b ∧ Depicts b image := by
  have start : (blank (sizeOf image) .trueColor32 Palette.empty).Canonical :=
    canonical_blank _ Palette.empty.len_le
  obtain ⟨shape, stored⟩ := scan_texels start.toWellFormed rfl fun x y =>
    ((image.get? x y).getD (Rgba.opaqueOf .black)).color
  refine ⟨_, if_pos fits, start.scan_texels rfl _, shape, fun x hx y hy => ?_⟩
  exact stored x (shape.size ▸ hx) y (shape.size ▸ hy)

theorem ofRgba_of_not_fits (fits : ¬image.fits = true) :
    ofRgba image = .error (.tooLarge image.width image.height) := if_neg fits

theorem sizeOf_toRgba (b : Bitmap) : sizeOf b.toRgba = b.size := by
  ext
  · exact Vec2.toNat_toUInt16 b.size.x.toNat_lt
  · exact Vec2.toNat_toUInt16 b.size.y.toNat_lt

theorem Depicts.extent (depicts : Depicts b image) (fits : image.fits = true) :
    b.size.x.toNat = image.width ∧ b.size.y.toNat = image.height := by
  obtain ⟨width, height⟩ := RgbaImage.fits_iff.mp fits
  rw [depicts.shape.size]
  exact ⟨Vec2.toNat_toUInt16 (Nat.lt_succ_of_le width),
    Vec2.toNat_toUInt16 (Nat.lt_succ_of_le height)⟩

/-! ## There and back -/

/-- An indexed bitmap widens to one without padding but zero, whatever its own padding is. -/
theorem canonical_convert_trueColor32 (clean : b.depth.isIndexed ∨ b.Canonical)
    (palette : Palette) : (b.convertInto .trueColor32 palette).Canonical := by
  rcases clean with indexed | canonical
  · rw [convertInto, indexed]
    exact (canonical_blank b.size palette.len_le).scan_texels rfl _
  · exact canonical.convertInto palette.len_le

/-- The bitmap of the image of a bitmap is the conversion to true colour without a palette. -/
theorem Depicts.eq_convertInto {out : Bitmap} (depicts : Depicts out b.toRgba) (wf : b.WellFormed)
    (clean : b.depth.isIndexed ∨ b.Canonical) : out = b.convertInto .trueColor32 Palette.empty := by
  have shape := depicts.shape
  rw [sizeOf_toRgba] at shape
  have wide := sameShape_convert_trueColor32 wf Palette.empty
  apply depicts.canonical.eq_of_stored (canonical_convert_trueColor32 clean _)
    (shape.trans wide.symm)
  intro x hx y hy
  have size : (b.convertInto .trueColor32 Palette.empty).size = b.size := wide.size
  rw [size] at hx hy
  have same : out.size = b.size := shape.size
  rw [depicts.color x (same ▸ hx) y (same ▸ hy), get?_toRgba hx hy,
    stored_convert_trueColor32 b _ hx hy]
  rfl

/-- A bitmap in true colour without a palette is its own conversion, up to palette cells that
are not active. -/
theorem same_convertInto_of_has (canonical : b.Canonical) (has : b.Has .trueColor32 Palette.empty) :
    (b.convertInto .trueColor32 Palette.empty).same b = true := by
  have converted : Converted b .trueColor32 Palette.empty _ :=
    converted_convertInto canonical.toWellFormed Palette.empty.len_le
  refine ((converted.canonical canonical).same_iff canonical).mpr
    ⟨converted.size, converted.depth.trans has.1.symm, ?_, ?_⟩
  · rw [converted.palette, has.2]
  · rw [has.1]
    exact converted.color rfl

/-- The image of a bitmap with the colours of an image is this image with full opacity. -/
theorem Depicts.toRgba_eq (depicts : Depicts b image) (fits : image.fits = true)
    (complete : image.Complete) : b.toRgba = image.solid := by
  obtain ⟨columns, rows⟩ := depicts.extent fits
  have size : image.solid.pixels.size = image.width * image.height := by
    simpa [RgbaImage.solid, RgbaImage.Complete] using complete
  refine RgbaImage.eq_of_get? columns rows ?_ size ?_
  · rw [size_toRgba, columns, rows, size]
  · intro x hx y hy
    change x < image.width at hx
    change y < image.height at hy
    have place : y * image.width + x < image.width * image.height := address_lt hy hx rfl
    have inside : y * image.width + x < image.pixels.size := Nat.lt_of_lt_of_le place complete
    rw [← columns] at hx
    rw [← rows] at hy
    rw [get?_toRgba hx hy, shownAt, depicts.color x hx y hy]
    rw [columns] at hx
    rw [rows] at hy
    simp [RgbaImage.get?, RgbaImage.solid, decode, hx, hy, place, inside, Rgba.solid, Rgba.opaqueOf,
      Rgba.color]

/-- The ways through RGBA images are exact. For a bitmap whose padding is clean the bitmap of
its image is what the conversion to true colour without a palette gives, or the bitmap itself
where that changes nothing. An image whose dimensions are words comes back with full opacity and
is else unchanged, and a larger one is refused. -/
theorem exchange_exact (wf : b.WellFormed) (clean : b.depth.isIndexed ∨ b.Canonical)
    (complete : image.Complete) :
    (∃ out, ofRgba b.toRgba = .ok out ∧
      (b.convertWith .trueColor32 Palette.empty = .ok (some out) ∨
        b.convertWith .trueColor32 Palette.empty = .ok none ∧ out.same b = true)) ∧
    (image.width ≤ 65535 ∧ image.height ≤ 65535 →
      ∃ made, ofRgba image = .ok made ∧ made.toRgba = image.solid) ∧
    (¬(image.width ≤ 65535 ∧ image.height ≤ 65535) →
      ofRgba image = .error (.tooLarge image.width image.height)) := by
  refine ⟨?_, fun fits => ?_, fun large => ?_⟩
  · obtain ⟨out, made, depicts⟩ := ofRgba_of_fits b.fits_toRgba
    obtain rfl := depicts.eq_convertInto wf clean
    refine ⟨_, made, ?_⟩
    by_cases has : b.Has .trueColor32 Palette.empty
    · right
      have canonical : b.Canonical := by
        refine clean.resolve_left fun indexed => ?_
        rw [has.1] at indexed
        contradiction
      exact ⟨by rw [convertWith_eq, if_pos has], same_convertInto_of_has canonical has⟩
    · exact .inl (convertWith_of_fits has Palette.empty.len_le)
  · have fits := RgbaImage.fits_iff.mpr fits
    obtain ⟨made, equal, depicts⟩ := ofRgba_of_fits fits
    exact ⟨made, equal, depicts.toRgba_eq fits complete⟩
  · exact ofRgba_of_not_fits (mt RgbaImage.fits_iff.mp large)

/-- Two pixels in black and white without a palette, with all padding set, and an image of one
pixel that nearly everything shines through. -/
theorem exchange_exact_monochrome :
    let b : Bitmap := ⟨⟨2, 1⟩, .mono1, #[0x7F, 0xFF, 0xFF, 0xFF], Palette.empty⟩
    let image : RgbaImage := ⟨1, 1, #[⟨1, 2, 3, 4⟩]⟩
    b.WellFormed ∧ b.depth.isIndexed ∧ image.Complete ∧
      (∃ out, ofRgba b.toRgba = .ok out ∧
        b.convertWith .trueColor32 Palette.empty = .ok (some out) ∧
        out.pixels = #[0, 0, 0, 0, 255, 255, 255, 0]) ∧
      ∃ made, ofRgba image = .ok made ∧ made.toRgba = ⟨1, 1, #[⟨1, 2, 3, 255⟩]⟩ := by
  intro b image
  have wf : b.WellFormed := ⟨by decide, by decide⟩
  have complete : image.Complete := by decide
  obtain ⟨⟨out, drawn, converted⟩, back, -⟩ := exchange_exact wf (.inl rfl) complete
  have solid : image.solid = ⟨1, 1, #[⟨1, 2, 3, 255⟩]⟩ := by
    simp [image, RgbaImage.solid, Rgba.solid]
  refine ⟨wf, rfl, complete, ⟨out, drawn, ?_⟩, solid ▸ back (by decide)⟩
  have changes : b.convertWith .trueColor32 Palette.empty = .ok (some out) := by
    refine converted.resolve_right fun nothing => ?_
    rw [convertWith_of_fits (by decide) Palette.empty.len_le] at nothing
    exact absurd nothing.1 (by simp)
  refine ⟨changes, ?_⟩
  rw [(convertWith_eq_ok changes).2]
  decide +kernel

end Bitmap

end TileEngine
