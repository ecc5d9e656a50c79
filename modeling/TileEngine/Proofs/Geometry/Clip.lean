import TileEngine.Geometry.Rect
import Mathlib.Tactic.Common

/-!
Clipping in unbounded numbers. The components of rectangles and positions are
16-bit words; the lemmas here read every difference and minimum of words as one
of naturals, and say which pixels a clipped rectangle covers. `Rect.sourceOf` is
the meaning that a copy gives to its arguments: the source pixel that belongs to
a position of the destination.
-/

namespace TileEngine

namespace Vec2

@[ext] theorem ext_toNat {v w : Vec2} (hx : v.x.toNat = w.x.toNat) (hy : v.y.toNat = w.y.toNat) :
    v = w := by
  cases v
  cases w
  simp only [mk.injEq]
  exact ⟨UInt16.toNat_inj.mp hx, UInt16.toNat_inj.mp hy⟩

@[simp] theorem toNat_wordSub (a b : UInt16) : (wordSub a b).toNat = a.toNat - b.toNat := by
  unfold wordSub
  split
  · rename_i le
    exact UInt16.toNat_sub_of_le _ _ le
  · rename_i not_le
    rw [UInt16.le_iff_toNat_le] at not_le
    simp only [UInt16.toNat_zero]
    omega

theorem inside_iff {p size : Vec2} :
    p.inside size = true ↔ p.x.toNat < size.x.toNat ∧ p.y.toNat < size.y.toNat := by
  simp [inside, UInt16.lt_iff_toNat_lt]

/-- The position with the given column and row, which are words. -/
def ofNats (x y : Nat) : Vec2 := ⟨x.toUInt16, y.toUInt16⟩

theorem toNat_toUInt16 {n : Nat} (h : n < 65536) : n.toUInt16.toNat = n := by
  simpa [Nat.toUInt16] using Nat.mod_eq_of_lt h

theorem toNat_ofNats_x {x y : Nat} {w : UInt16} (hx : x < w.toNat) :
    (ofNats x y).x.toNat = x :=
  toNat_toUInt16 (Nat.lt_trans hx w.toNat_lt)

theorem toNat_ofNats_y {x y : Nat} {w : UInt16} (hy : y < w.toNat) :
    (ofNats x y).y.toNat = y :=
  toNat_toUInt16 (Nat.lt_trans hy w.toNat_lt)

theorem inside_ofNats {x y : Nat} {size : Vec2} (hx : x < size.x.toNat) (hy : y < size.y.toNat) :
    (ofNats x y).inside size = true := by
  rw [inside_iff, toNat_ofNats_x hx, toNat_ofNats_y hy]
  exact ⟨hx, hy⟩

/-- What is read at a position inside an extent, and nowhere else, agrees everywhere when
it agrees at all columns and rows. -/
theorem forall_position_iff {γ : Type} {size : Vec2} {f g : Nat → Nat → γ} :
    (∀ q : Vec2, (if q.inside size then some (f q.x.toNat q.y.toNat) else none) =
      if q.inside size then some (g q.x.toNat q.y.toNat) else none) ↔
      ∀ x < size.x.toNat, ∀ y < size.y.toNat, f x y = g x y := by
  constructor
  · intro agree x hx y hy
    have here := agree (ofNats x y)
    rw [toNat_ofNats_x hx, toNat_ofNats_y hy] at here
    simpa [inside_ofNats hx hy] using here
  · intro agree q
    split
    · rename_i inside
      obtain ⟨hx, hy⟩ := inside_iff.mp inside
      rw [agree _ hx _ hy]
    · rfl

end Vec2

namespace Rect

/-- The position from which a copy of a rectangle takes the pixel for position `q`,
when the corner of the rectangle goes to `p`; none where the copy has no pixel,
because `q` lies outside the rectangle or its pixel outside the source. -/
def sourceOf (r : Rect) (source p q : Vec2) : Option Vec2 :=
  let x := r.origin.x.toNat + (q.x.toNat - p.x.toNat)
  let y := r.origin.y.toNat + (q.y.toNat - p.y.toNat)
  if p.x.toNat ≤ q.x.toNat ∧ p.y.toNat ≤ q.y.toNat ∧ x < r.limit.1 ∧ y < r.limit.2 ∧
      x < source.x.toNat ∧ y < source.y.toNat then
    some (Vec2.ofNats x y)
  else none

/-- The position of pixel `q` of a rectangle. -/
def positionOf (r : Rect) (q : Vec2) : Vec2 :=
  Vec2.ofNats (r.origin.x.toNat + q.x.toNat) (r.origin.y.toNat + q.y.toNat)

theorem contains_iff {corner size p : Vec2} :
    contains ⟨corner, size⟩ p = true ↔
      corner.x.toNat ≤ p.x.toNat ∧ corner.y.toNat ≤ p.y.toNat ∧
        p.x.toNat < corner.x.toNat + size.x.toNat ∧
        p.y.toNat < corner.y.toNat + size.y.toNat := by
  simp only [contains, Bool.and_eq_true, decide_eq_true_eq, UInt16.le_iff_toNat_le, and_assoc]
  rfl

/-- What a clipped rectangle covers along one axis: the least of its own extent,
what the source has past the corner, and the room at the destination. -/
def clippedExtent (extent source corner room : Nat) : Nat :=
  min (min extent (source - corner)) room

private theorem sub_min_self (a b : Nat) : a - min b a = a - b := by omega

private theorem min_corner {extent source corner room : Nat}
    (left : clippedExtent extent source corner room ≠ 0) : min corner source = corner := by
  unfold clippedExtent at left
  omega

private theorem word_eq_zero_iff (w : UInt16) : w = 0 ↔ w.toNat = 0 := by
  rw [← UInt16.toNat_inj, UInt16.toNat_zero]

/-- A clipped rectangle keeps its corner; there is one when both of its extents
are positive. -/
theorem clip_eq_some_iff {source destination : Vec2} {r : Rect} {p : Vec2} {c : Rect} :
    clip source destination r p = some c ↔
      c.origin = r.origin ∧
      c.size.x.toNat = clippedExtent r.size.x.toNat source.x.toNat r.origin.x.toNat
        (destination.x.toNat - p.x.toNat) ∧
      c.size.y.toNat = clippedExtent r.size.y.toNat source.y.toNat r.origin.y.toNat
        (destination.y.toNat - p.y.toNat) ∧
      c.size.x.toNat ≠ 0 ∧ c.size.y.toNat ≠ 0 := by
  obtain ⟨origin, size⟩ := c
  simp only [clip, clampedTo, Vec2.clamp, Vec2.saturatingSub, Bool.or_eq_true, beq_iff_eq,
    word_eq_zero_iff, UInt16.toNat_min, Vec2.toNat_wordSub, Option.ite_none_left_eq_some,
    Option.some.injEq, Rect.mk.injEq, Vec2.ext_toNat_iff, sub_min_self, not_or]
  change ((¬clippedExtent _ _ _ _ = 0 ∧ ¬clippedExtent _ _ _ _ = 0) ∧ _) ↔ _
  constructor
  · rintro ⟨⟨width, height⟩, ⟨left, top⟩, right, bottom⟩
    rw [min_corner width] at left
    rw [min_corner height] at top
    exact ⟨⟨left.symm, top.symm⟩, right.symm, bottom.symm, right ▸ width, bottom ▸ height⟩
  · rintro ⟨⟨left, top⟩, right, bottom, width, height⟩
    rw [right] at width
    rw [bottom] at height
    refine ⟨⟨width, height⟩, ⟨?_, ?_⟩, right.symm, bottom.symm⟩
    · rw [min_corner width, left]
    · rw [min_corner height, top]

theorem clip_eq_none_iff {source destination : Vec2} {r : Rect} {p : Vec2} :
    clip source destination r p = none ↔
      clippedExtent r.size.x.toNat source.x.toNat r.origin.x.toNat
        (destination.x.toNat - p.x.toNat) = 0 ∨
      clippedExtent r.size.y.toNat source.y.toNat r.origin.y.toNat
        (destination.y.toNat - p.y.toNat) = 0 := by
  simp only [clip, clampedTo, Vec2.clamp, Vec2.saturatingSub, Bool.or_eq_true, beq_iff_eq,
    word_eq_zero_iff, UInt16.toNat_min, Vec2.toNat_wordSub, sub_min_self]
  change (if clippedExtent _ _ _ _ = 0 ∨ clippedExtent _ _ _ _ = 0 then none else some _) = none ↔ _
  split <;> simp_all

/-- A rectangle that lies inside the source and, with its corner at `p`, inside the
destination. -/
structure Placed (source destination : Vec2) (c : Rect) (p : Vec2) : Prop where
  source_x : c.origin.x.toNat + c.size.x.toNat ≤ source.x.toNat
  source_y : c.origin.y.toNat + c.size.y.toNat ≤ source.y.toNat
  target_x : p.x.toNat + c.size.x.toNat ≤ destination.x.toNat
  target_y : p.y.toNat + c.size.y.toNat ≤ destination.y.toNat

private theorem extent_fits {extent source corner room limit : Nat}
    (left : clippedExtent extent source corner (limit - room) ≠ 0) :
    corner + clippedExtent extent source corner (limit - room) ≤ source ∧
      room + clippedExtent extent source corner (limit - room) ≤ limit := by
  unfold clippedExtent at left ⊢
  omega

theorem placed_of_clip {source destination : Vec2} {r c : Rect} {p : Vec2}
    (clipped : clip source destination r p = some c) : Placed source destination c p := by
  obtain ⟨origin, width, height, hx, hy⟩ := clip_eq_some_iff.mp clipped
  rw [width] at hx
  rw [height] at hy
  refine ⟨?_, ?_, ?_, ?_⟩
  · rw [origin, width]
    exact (extent_fits hx).1
  · rw [origin, height]
    exact (extent_fits hy).1
  · rw [width]
    exact (extent_fits hx).2
  · rw [height]
    exact (extent_fits hy).2

/-- A rectangle that is placed, and has a pixel, is not cut. -/
theorem clip_of_placed {source destination : Vec2} {c : Rect} {p : Vec2}
    (placed : Placed source destination c p) (width : c.size.x.toNat ≠ 0)
    (height : c.size.y.toNat ≠ 0) : clip source destination c p = some c := by
  obtain ⟨source_x, source_y, target_x, target_y⟩ := placed
  refine clip_eq_some_iff.mpr ⟨rfl, ?_, ?_, width, height⟩
  · unfold clippedExtent
    omega
  · unfold clippedExtent
    omega

/-- The columns and rows that a rectangle of some extent covers with its corner at
`p`. -/
def Covers (p size : Vec2) (x y : Nat) : Prop :=
  p.x.toNat ≤ x ∧ p.y.toNat ≤ y ∧ x < p.x.toNat + size.x.toNat ∧ y < p.y.toNat + size.y.toNat

instance (p size : Vec2) (x y : Nat) : Decidable (Covers p size x y) :=
  inferInstanceAs (Decidable (_ ∧ _ ∧ _ ∧ _))

theorem contains_iff_covers {p size q : Vec2} :
    contains ⟨p, size⟩ q = true ↔ Covers p size q.x.toNat q.y.toNat :=
  contains_iff

private theorem not_covered {extent source corner room a b : Nat}
    (none : clippedExtent extent source corner room = 0) (le : b ≤ a) (inside : a - b < room) :
    ¬(corner + (a - b) < corner + extent ∧ corner + (a - b) < source) := by
  unfold clippedExtent at none
  omega

/-- Where nothing is left of a rectangle, no position of the destination has a
source pixel. -/
theorem sourceOf_of_clip_none {source destination : Vec2} {r : Rect} {p q : Vec2}
    (none : clip source destination r p = none) (inside : q.inside destination = true) :
    r.sourceOf source p q = Option.none := by
  rw [clip_eq_none_iff] at none
  rw [Vec2.inside_iff] at inside
  unfold sourceOf limit
  rw [if_neg]
  rintro ⟨left, top, right, bottom, column, row⟩
  rcases none with none | none
  · exact not_covered none left (by omega) ⟨right, column⟩
  · exact not_covered none top (by omega) ⟨bottom, row⟩

private theorem covered_iff {extent source corner room a b : Nat} (le : b ≤ a)
    (inside : a - b < room) :
    a < b + clippedExtent extent source corner room ↔
      corner + (a - b) < corner + extent ∧ corner + (a - b) < source := by
  unfold clippedExtent
  omega

/-- The positions with a source pixel are those of the clipped rectangle when its
corner is moved to `p`. -/
theorem sourceOf_of_clip_some {source destination : Vec2} {r c : Rect} {p q : Vec2}
    (clipped : clip source destination r p = some c) (inside : q.inside destination = true) :
    r.sourceOf source p q =
      if contains ⟨p, c.size⟩ q then
        some (Vec2.ofNats (c.origin.x.toNat + (q.x.toNat - p.x.toNat))
          (c.origin.y.toNat + (q.y.toNat - p.y.toNat)))
      else none := by
  obtain ⟨origin, width, height, -⟩ := clip_eq_some_iff.mp clipped
  rw [Vec2.inside_iff] at inside
  rw [origin]
  unfold sourceOf limit
  refine if_congr ?_ rfl rfl
  rw [contains_iff, width, height]
  constructor
  · rintro ⟨left, top, right, bottom, column, row⟩
    exact ⟨left, top, (covered_iff left (by omega)).mpr ⟨right, column⟩,
      (covered_iff top (by omega)).mpr ⟨bottom, row⟩⟩
  · rintro ⟨left, top, right, bottom⟩
    obtain ⟨right, column⟩ := (covered_iff left (by omega)).mp right
    obtain ⟨bottom, row⟩ := (covered_iff top (by omega)).mp bottom
    exact ⟨left, top, right, bottom, column, row⟩

/-- A position without a source pixel is not covered by the clipped rectangle. -/
theorem not_covers_of_sourceOf {source destination : Vec2} {r c : Rect} {p q : Vec2}
    (clipped : clip source destination r p = some c) (inside : q.inside destination = true)
    (outside : r.sourceOf source p q = none) : ¬Covers p c.size q.x.toNat q.y.toNat := by
  intro covered
  rw [sourceOf_of_clip_some clipped inside, if_pos (contains_iff_covers.mpr covered)] at outside
  contradiction

/-- A position with a source pixel is covered, and lies in the clipped rectangle as its
source pixel does. -/
theorem covers_of_sourceOf {source destination : Vec2} {r c : Rect} {p q s : Vec2}
    (clipped : clip source destination r p = some c) (inside : q.inside destination = true)
    (taken : r.sourceOf source p q = some s) :
    Covers p c.size q.x.toNat q.y.toNat ∧
      s = Vec2.ofNats (c.origin.x.toNat + (q.x.toNat - p.x.toNat))
        (c.origin.y.toNat + (q.y.toNat - p.y.toNat)) := by
  rw [sourceOf_of_clip_some clipped inside] at taken
  split at taken
  · rename_i covered
    exact ⟨contains_iff_covers.mp covered, (Option.some.inj taken).symm⟩
  · contradiction

/-- A rectangle inside the source that is placed at the origin gives each of its pixels
to the position of this pixel. -/
theorem sourceOf_zero {source : Vec2} {c : Rect} {q : Vec2}
    (left : c.origin.x.toNat + c.size.x.toNat ≤ source.x.toNat)
    (top : c.origin.y.toNat + c.size.y.toNat ≤ source.y.toNat) (inside : q.inside c.size = true) :
    c.sourceOf source Vec2.zero q = some (c.positionOf q) := by
  obtain ⟨hx, hy⟩ := Vec2.inside_iff.mp inside
  simp only [sourceOf, limit, Vec2.zero, UInt16.toNat_zero, Nat.sub_zero]
  rw [if_pos, positionOf]
  omega

/-! ## Clamping -/

/-- A clamped rectangle lies inside the bounds. -/
theorem clampedTo_fits (r : Rect) (bounds : Vec2) :
    (r.clampedTo bounds).origin.x.toNat + (r.clampedTo bounds).size.x.toNat ≤ bounds.x.toNat ∧
      (r.clampedTo bounds).origin.y.toNat + (r.clampedTo bounds).size.y.toNat ≤ bounds.y.toNat := by
  simp only [clampedTo, Vec2.clamp, Vec2.saturatingSub, UInt16.toNat_min, Vec2.toNat_wordSub]
  omega

/-- A rectangle inside the bounds is not changed by clamping. -/
theorem clampedTo_of_fits {c : Rect} {bounds : Vec2}
    (left : c.origin.x.toNat + c.size.x.toNat ≤ bounds.x.toNat)
    (top : c.origin.y.toNat + c.size.y.toNat ≤ bounds.y.toNat) : c.clampedTo bounds = c := by
  obtain ⟨⟨ox, oy⟩, ⟨sx, sy⟩⟩ := c
  simp only [clampedTo, Rect.mk.injEq, Vec2.ext_toNat_iff, Vec2.clamp, Vec2.saturatingSub,
    UInt16.toNat_min, Vec2.toNat_wordSub]
  dsimp only at left top
  omega

/-- A rectangle inside the source is not cut when it is placed at the corner of a
destination of its own extent. -/
theorem clip_whole {c : Rect} {bounds : Vec2}
    (left : c.origin.x.toNat + c.size.x.toNat ≤ bounds.x.toNat)
    (top : c.origin.y.toNat + c.size.y.toNat ≤ bounds.y.toNat) :
    clip bounds c.size c Vec2.zero = if c.size.x = 0 ∨ c.size.y = 0 then none else some c := by
  have room : c.size.clamp (c.size.saturatingSub Vec2.zero) = c.size := by
    simp only [Vec2.ext_toNat_iff, Vec2.clamp, Vec2.saturatingSub, Vec2.zero, UInt16.toNat_min,
      Vec2.toNat_wordSub, UInt16.toNat_zero]
    omega
  simp only [clip, clampedTo_of_fits left top, room, Bool.or_eq_true, beq_iff_eq]

end Rect

end TileEngine
