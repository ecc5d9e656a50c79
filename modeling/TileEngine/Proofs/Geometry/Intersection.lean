import TileEngine.Proofs.Geometry.Clip
import Mathlib.Algebra.Group.Prod
import Mathlib.Data.Set.Prod

/-!
Clipping as intersection. Rectangles are read as sets of pixels of an unbounded plane, so no
sum of corners, extents and positions wraps around. Main statement: the clipped rectangle is
the set of those pixels that lie in the source and go to pixels of the destination, and a clamped
rectangle is the part of it that lies inside the bounds.
-/

namespace TileEngine

/-- The pixel of a position. -/
def Vec2.pixel (v : Vec2) : ℤ × ℤ := (v.x.toNat, v.y.toNat)

namespace Rect

variable {source destination bounds p q : Vec2} {r c : Rect}

/-- The columns or rows from a start on. -/
def stretch (start extent : Nat) : Set ℤ := {a | start ≤ a ∧ a < start + extent}

/-- The pixels of a rectangle. It may reach past the last position that is a pair of words. -/
def pixels (r : Rect) : Set (ℤ × ℤ) :=
  stretch r.origin.x.toNat r.size.x.toNat ×ˢ stretch r.origin.y.toNat r.size.y.toNat

/-- The pixels of a rectangle that lie in the source and go to a pixel of the destination when
the corner of the rectangle goes to `p`. -/
def carried (source destination : Vec2) (r : Rect) (p : Vec2) : Set (ℤ × ℤ) :=
  {q | q ∈ r.pixels ∧ q ∈ (ofSize source).pixels ∧
    p.pixel + q - r.origin.pixel ∈ (ofSize destination).pixels}

theorem mem_stretch {start extent : Nat} {a : ℤ} :
    a ∈ stretch start extent ↔ start ≤ a ∧ a < start + extent := Iff.rfl

theorem stretch_eq_empty_iff {start extent : Nat} : stretch start extent = ∅ ↔ extent = 0 := by
  rw [Set.eq_empty_iff_forall_notMem]
  simp only [mem_stretch]
  constructor
  · intro none
    have first := none start
    omega
  · intro zero a
    omega

/-- A stretch tells its extent. -/
theorem stretch_inj {start extent extent' : Nat} :
    stretch start extent = stretch start extent' ↔ extent = extent' := by
  constructor
  · intro equal
    have first := Set.ext_iff.mp equal (start + extent)
    have second := Set.ext_iff.mp equal (start + extent')
    simp only [mem_stretch] at first second
    omega
  · rintro rfl
    rfl

theorem contains_iff_mem_pixels : r.contains q = true ↔ q.pixel ∈ r.pixels := by
  obtain ⟨corner, size⟩ := r
  simp only [contains_iff, pixels, Vec2.pixel, Set.mem_prod, mem_stretch]
  omega

theorem inside_iff_mem_pixels : q.inside bounds = true ↔ q.pixel ∈ (ofSize bounds).pixels := by
  simp only [Vec2.inside_iff, ofSize, pixels, Vec2.pixel, Vec2.zero, Set.mem_prod, mem_stretch,
    UInt16.toNat_zero]
  omega

/-! ## One axis -/

/-- A clamp moves the corner first. A corner past the bound leaves no extent, so the corner that
is kept is the old one wherever a pixel is left. -/
theorem mem_stretch_clamped {corner extent bound : Nat} {a : ℤ} :
    a ∈ stretch (min corner bound) (min extent (bound - min corner bound)) ↔
      a ∈ stretch corner extent ∧ a ∈ stretch 0 bound := by
  simp only [mem_stretch]
  omega

theorem mem_stretch_clipped {corner extent source limit target : Nat} {a : ℤ} :
    a ∈ stretch corner (clippedExtent extent source corner (limit - target)) ↔
      a ∈ stretch corner extent ∧ a ∈ stretch 0 source ∧ target + a - corner ∈ stretch 0 limit := by
  simp only [mem_stretch, clippedExtent]
  omega

/-! ## Both axes -/

/-- A clamped rectangle is the intersection with the bounds. -/
theorem pixels_clampedTo (r : Rect) (bounds : Vec2) :
    (r.clampedTo bounds).pixels = r.pixels ∩ (ofSize bounds).pixels := by
  ext ⟨x, y⟩
  simp only [pixels, clampedTo, ofSize, Vec2.clamp, Vec2.saturatingSub, Vec2.zero,
    UInt16.toNat_min, Vec2.toNat_wordSub, UInt16.toNat_zero, Set.mem_inter_iff, Set.mem_prod,
    mem_stretch_clamped]
  tauto

/-- What is carried is a rectangle with the corner of `r`, whether it has a pixel or not. -/
theorem carried_eq (source destination : Vec2) (r : Rect) (p : Vec2) :
    carried source destination r p =
      stretch r.origin.x.toNat (clippedExtent r.size.x.toNat source.x.toNat r.origin.x.toNat
          (destination.x.toNat - p.x.toNat)) ×ˢ
        stretch r.origin.y.toNat (clippedExtent r.size.y.toNat source.y.toNat r.origin.y.toNat
          (destination.y.toNat - p.y.toNat)) := by
  ext ⟨x, y⟩
  simp only [carried, pixels, ofSize, Vec2.pixel, Vec2.zero, UInt16.toNat_zero, Set.mem_ofPred_eq,
    Set.mem_prod, Prod.mk_add_mk, Prod.mk_sub_mk, mem_stretch_clipped]
  tauto

theorem carried_eq_empty_iff :
    carried source destination r p = ∅ ↔ clip source destination r p = none := by
  rw [carried_eq, clip_eq_none_iff, Set.prod_eq_empty_iff, stretch_eq_empty_iff,
    stretch_eq_empty_iff]

theorem pixels_of_clip (clipped : clip source destination r p = some c) :
    c.pixels = carried source destination r p := by
  obtain ⟨origin, width, height, -⟩ := clip_eq_some_iff.mp clipped
  rw [pixels, carried_eq, origin, width, height]

/-- A corner and pixels, of which there is one, make up a rectangle. -/
theorem eq_of_pixels (origin : c.origin = r.origin) (equal : c.pixels = r.pixels)
    (nonempty : r.pixels.Nonempty) : c = r := by
  obtain ⟨corner, size⟩ := c
  obtain ⟨corner', size'⟩ := r
  obtain rfl : corner = corner' := origin
  obtain ⟨columns, rows⟩ | none := (Set.prod_eq_prod_iff).mp equal
  · rw [stretch_inj] at columns rows
    obtain rfl : size = size' := Vec2.ext_toNat columns rows
    rfl
  · rw [← equal] at nonempty
    exact absurd (Set.prod_eq_empty_iff.mpr none.1) nonempty.ne_empty

/-- Clipping is exact intersection. There is no clipped rectangle exactly when no pixel of the
rectangle lies in the source and goes to the destination; else it is the one with the corner of
the rectangle and these pixels. A position is contained when its pixel is covered, and a clamped
rectangle contains the positions of the rectangle that are inside the bounds. -/
theorem clip_exact (source destination : Vec2) (r : Rect) (p : Vec2) :
    (clip source destination r p = none ↔ carried source destination r p = ∅) ∧
    (∀ c, clip source destination r p = some c ↔
      c.origin = r.origin ∧ c.pixels = carried source destination r p ∧ c.pixels.Nonempty) ∧
    ∀ q : Vec2, (r.contains q = true ↔ q.pixel ∈ r.pixels) ∧
      ∀ bounds : Vec2, (r.clampedTo bounds).contains q = true ↔
        r.contains q = true ∧ q.inside bounds = true := by
  refine ⟨carried_eq_empty_iff.symm, fun c => ⟨?_, ?_⟩,
    fun q => ⟨contains_iff_mem_pixels, fun bounds => ?_⟩⟩
  · intro clipped
    have covers := pixels_of_clip clipped
    refine ⟨(clip_eq_some_iff.mp clipped).1, covers, Set.nonempty_iff_ne_empty.mpr fun empty => ?_⟩
    rw [covers, carried_eq_empty_iff, clipped] at empty
    contradiction
  · rintro ⟨origin, covers, nonempty⟩
    cases clipped : clip source destination r p with
    | none =>
      rw [← carried_eq_empty_iff, ← covers] at clipped
      exact absurd clipped nonempty.ne_empty
    | some d =>
      have same := (clip_eq_some_iff.mp clipped).1
      have equal := (pixels_of_clip clipped).trans covers.symm
      rw [eq_of_pixels (same.trans origin.symm) equal nonempty]
  · rw [contains_iff_mem_pixels, contains_iff_mem_pixels, inside_iff_mem_pixels, pixels_clampedTo]
    exact Set.mem_inter_iff ..

/-- Both a rectangle that reaches past the last word and a position past the edge. -/
example : clip ⟨4, 4⟩ ⟨8, 8⟩ ⟨⟨1, 1⟩, ⟨65535, 65535⟩⟩ ⟨6, 0⟩ = some ⟨⟨1, 1⟩, ⟨2, 3⟩⟩ ∧
    clip ⟨4, 4⟩ ⟨8, 8⟩ ⟨⟨0, 0⟩, ⟨4, 4⟩⟩ ⟨65535, 0⟩ = none := by decide

end Rect

end TileEngine
