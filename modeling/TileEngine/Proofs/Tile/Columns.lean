import TileEngine.Proofs.Tile.Places
import Mathlib.Order.Bounds.Basic

/-!
The columns of a tile set that takes as many as fit. A row of tiles needs the margin on both sides
and a gap between neighbours. The number of columns that is derived from the width of an image is
the greatest whose row fits; so every tile lies between the two margins, and its column is never
the reason why it has no rectangle, nor that of a fault.
-/

namespace TileEngine

namespace Tileset

/-- A row of `n` tiles fits an image: the tiles themselves, a gap between neighbours, and the
margin on both sides. -/
def RowFits (t : Tileset) (width : UInt16) (n : Nat) : Prop :=
  n = 0 ∨ 2 * t.margin.toNat + n * t.tileSize.x.toNat + (n - 1) * t.spacing.toNat ≤ width.toNat

/-- The columns that a division of the width finds, before they are put into a word. -/
def derivedColumns (t : Tileset) (width : UInt16) : Nat :=
  (width.toNat - 2 * t.margin.toNat + t.spacing.toNat) / t.columnStep

variable {t : Tileset} {width : UInt16} {n : Nat}

theorem columnStep_pos (wide : 0 < t.tileSize.x) : 0 < t.columnStep :=
  Nat.add_pos_left (UInt16.lt_iff_toNat_lt.mp wide) _

/-- The last tile of a row starts a whole number of steps behind the margin. -/
theorem rowFits_succ :
    t.RowFits width (n + 1) ↔
      t.margin.toNat + n * t.columnStep + t.tileSize.x.toNat + t.margin.toNat ≤ width.toNat := by
  have steps : n * t.columnStep = n * t.tileSize.x.toNat + n * t.spacing.toNat := Nat.mul_add ..
  have tiles : (n + 1) * t.tileSize.x.toNat = n * t.tileSize.x.toNat + t.tileSize.x.toNat :=
    Nat.succ_mul ..
  rw [RowFits, steps, tiles, Nat.add_sub_cancel]
  omega

/-- The division is right also where the margins leave nothing of the image, and where the gaps
are longer than the tiles. -/
theorem rowFits_iff (wide : 0 < t.tileSize.x) : t.RowFits width n ↔ n ≤ t.derivedColumns width := by
  have wide' : 0 < t.tileSize.x.toNat := UInt16.lt_iff_toNat_lt.mp wide
  rw [derivedColumns, Nat.le_div_iff_mul_le (columnStep_pos wide)]
  cases n with
  | zero => simp [RowFits]
  | succ n =>
    rw [rowFits_succ, Nat.succ_mul]
    unfold columnStep
    omega

/-- What fits an image is a word. -/
theorem derivedColumns_le (wide : 0 < t.tileSize.x) : t.derivedColumns width ≤ 65535 := by
  have fits := (rowFits_iff wide).mpr (Nat.le_refl (t.derivedColumns width))
  have wide' : 0 < t.tileSize.x.toNat := UInt16.lt_iff_toNat_lt.mp wide
  have tiles := Nat.le_mul_of_pos_right (t.derivedColumns width) wide'
  have image := width.toNat_lt
  unfold RowFits at fits
  omega

theorem toNat_columnsFor (derived : t.columns = none) (wide : 0 < t.tileSize.x) :
    (t.columnsFor width).toNat = t.derivedColumns width := by
  have few : t.derivedColumns width ≤ 65535 := derivedColumns_le wide
  rw [columnsFor, derived]
  dsimp only
  rw [if_neg (Nat.ne_of_gt (columnStep_pos wide))]
  change (min (t.derivedColumns width) 65535).toUInt16.toNat = _
  rw [Nat.min_eq_left few]
  exact Vec2.toNat_toUInt16 (Nat.lt_succ_of_le few)

/-- A tile ends in front of the margin on the right. -/
theorem leftOf_le (derived : t.columns = none) (wide : 0 < t.tileSize.x)
    (columns : 0 < t.columnsFor width) (tile : UInt16) :
    t.leftOf tile (t.columnsFor width) + t.tileSize.x.toNat + t.margin.toNat ≤ width.toNat := by
  have columns' : 0 < (t.columnsFor width).toNat := UInt16.lt_iff_toNat_lt.mp columns
  have column : tile.toNat % (t.columnsFor width).toNat < (t.columnsFor width).toNat :=
    Nat.mod_lt _ columns'
  rw [toNat_columnsFor derived wide] at column
  have fits := rowFits_succ.mp ((rowFits_iff wide).mpr column)
  rwa [← toNat_columnsFor derived wide] at fits

/-- Without a fixed number of columns, and with tiles that are at least one pixel wide, the columns
are the greatest number whose row fits the image; a word always holds what the division finds.
Every tile then starts behind the margin on the left and ends in front of the one on the right. Its
column is computed without a fault and is one of 16-bit words. So the row alone decides whether a
tile of the set has a rectangle, and whether the computation ends in a fault. -/
theorem columnsFor_greatest (derived : t.columns = none) (wide : 0 < t.tileSize.x)
    (width : UInt16) :
    IsGreatest {n | t.RowFits width n} (t.columnsFor width).toNat ∧
      (width.toNat - 2 * t.margin.toNat + t.spacing.toNat) / t.columnStep =
        (t.columnsFor width).toNat ∧
      ∀ tile,
        (0 < t.columnsFor width →
          t.startOf (tile % t.columnsFor width) t.columnStep =
            .ok (t.leftOf tile (t.columnsFor width)) ∧
          t.leftOf tile (t.columnsFor width) < 65536) ∧
        (∀ r, t.tileRect? tile width = .ok (some r) → t.margin.toNat ≤ r.origin.x.toNat ∧
          r.origin.x.toNat + r.size.x.toNat + t.margin.toNat ≤ width.toNat) ∧
        ((∃ r, t.tileRect? tile width = .ok (some r)) ↔
          tile < t.tileCount ∧ 0 < t.columnsFor width ∧
            t.topOf tile (t.columnsFor width) < 65536) ∧
        ((∃ fault, t.tileRect? tile width = .error fault) ↔
          tile < t.tileCount ∧ 0 < t.columnsFor width ∧
            4294967296 ≤ t.topOf tile (t.columnsFor width)) := by
  have number : (t.columnsFor width).toNat = t.derivedColumns width :=
    toNat_columnsFor derived wide
  have column (columns : 0 < t.columnsFor width) (tile : UInt16) :
      t.leftOf tile (t.columnsFor width) < 65536 := by
    have inside := leftOf_le derived wide columns tile
    have image := width.toNat_lt
    omega
  refine ⟨⟨(rowFits_iff wide).mpr (Nat.le_of_eq number), ?_⟩, number.symm,
    fun tile => ⟨?_, ?_, ?_, ?_⟩⟩
  · intro n fits
    rw [number]
    exact (rowFits_iff wide).mp fits
  · intro columns
    have small := column columns tile
    rw [startOf_column, if_pos (Nat.lt_trans small (by decide))]
    exact ⟨rfl, small⟩
  · intro r found
    obtain ⟨-, columns, left, -, size⟩ := tileRect?_eq_some_iff.mp found
    rw [← left, size]
    exact ⟨Nat.le_add_right .., leftOf_le derived wide columns tile⟩
  · rw [exists_tileRect?]
    refine and_congr_right fun _ => and_congr_right fun columns => ?_
    exact and_iff_right (column columns tile)
  · simp only [tileRect?_eq_error_iff, exists_and_left, exists_eq', and_true]
    refine and_congr_right fun _ => and_congr_right fun columns => ?_
    have small := column columns tile
    unfold PlaceFits
    omega

/-- Three tiles of four pixels, gaps of nine that are longer than they are, and margins of three
just fill a width of 36. -/
theorem columnsFor_greatest_filled :
    let t : Tileset := ⟨.null .bitmap, ⟨4, 6⟩, 7, 1, 3, 9, none⟩
    t.columns = none ∧ 0 < t.tileSize.x ∧ IsGreatest {n | t.RowFits 36 n} 3 ∧
      t.tileRect? 5 36 = .ok (some (.ofParts 29 18 4 6)) ∧ 29 + 4 + 3 ≤ 36 := by
  intro t
  have last : t.tileRect? 5 36 = .ok (some (.ofParts 29 18 4 6)) := by decide
  have three : (t.columnsFor 36).toNat = 3 := by decide
  obtain ⟨greatest, -, tiles⟩ := columnsFor_greatest (t := t) rfl (by decide) 36
  exact ⟨rfl, by decide, three ▸ greatest, last, ((tiles 5).2.1 _ last).2⟩

end Tileset

end TileEngine
