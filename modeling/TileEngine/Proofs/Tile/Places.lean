import TileEngine.Proofs.Bitmap.Store
import TileEngine.Proofs.Geometry.Clip
import TileEngine.Tile.Set

/-!
Where the tiles of a set lie. A tile has its place in a grid, whose columns and rows start one
step after the other behind the margin. The place is computed in words of 32 bits and must be one
of 16-bit words in the end. Where the words of 32 bits hold it, a tile has a rectangle exactly if
its place is one of 16-bit words. Where they do not, the computation ends in a fault instead of
telling that there is none; only steps of more than 65536 can lead there. No two tiles that have a
rectangle share a pixel.
-/

namespace TileEngine

namespace Tileset

/-- The column in which a tile starts, in unbounded numbers. -/
def leftOf (t : Tileset) (tile columns : UInt16) : Nat :=
  t.margin.toNat + tile.toNat % columns.toNat * t.columnStep

/-- The row in which a tile starts, in unbounded numbers. -/
def topOf (t : Tileset) (tile columns : UInt16) : Nat :=
  t.margin.toNat + tile.toNat / columns.toNat * t.rowStep

/-- Words of 32 bits hold the place of a tile. -/
def PlaceFits (t : Tileset) (tile columns : UInt16) : Prop :=
  t.leftOf tile columns < 4294967296 ∧ t.topOf tile columns < 4294967296

instance (t : Tileset) (tile columns : UInt16) : Decidable (t.PlaceFits tile columns) :=
  inferInstanceAs (Decidable (_ ∧ _))

/-- The fault at a start that is no word of 32 bits. -/
def startFault (n step : Nat) : PlaceFault :=
  if 4294967296 ≤ n * step then .product else .sum

/-- The fault at a place that words of 32 bits do not hold; the column comes first. -/
def placeFault (t : Tileset) (tile columns : UInt16) : PlaceFault :=
  if t.leftOf tile columns < 4294967296 then startFault (tile.toNat / columns.toNat) t.rowStep
  else startFault (tile.toNat % columns.toNat) t.columnStep

variable {t : Tileset} {tile other columns width n : UInt16} {step : Nat} {fault : PlaceFault}
  {r s : Rect} {q : Vec2}

theorem word?_eq_some {n : Nat} {w : UInt16} : word? n = some w ↔ n = w.toNat := by
  unfold word?
  constructor
  · intro found
    split at found
    · rename_i small
      rw [← Option.some.inj found, Vec2.toNat_toUInt16 small]
    · contradiction
  · intro same
    rw [if_pos (same ▸ w.toNat_lt), same]
    simp

/-! ## Where columns and rows start -/

/-- The steps themselves are always words of 32 bits. -/
theorem steps_lt (t : Tileset) : t.columnStep < 4294967296 ∧ t.rowStep < 4294967296 := by
  have extent_x := t.tileSize.x.toNat_lt
  have extent_y := t.tileSize.y.toNat_lt
  have gap := t.spacing.toNat_lt
  unfold columnStep rowStep
  omega

/-- A start that is a word of 32 bits is computed, for no product on the way is greater. Otherwise
the product or the sum is a fault. -/
theorem startOf_eq (t : Tileset) (n : UInt16) (step : Nat) :
    t.startOf n step =
      if t.margin.toNat + n.toNat * step < 4294967296 then .ok (t.margin.toNat + n.toNat * step)
      else .error (startFault n.toNat step) := by
  unfold startOf checked startFault
  by_cases product : n.toNat * step < 4294967296
  · rw [if_pos product, if_neg (Nat.not_le.mpr product)]
    rfl
  · have sum : ¬t.margin.toNat + n.toNat * step < 4294967296 := by omega
    rw [if_neg product, if_pos (Nat.not_lt.mp product), if_neg sum]
    rfl

theorem startOf_column (t : Tileset) (tile columns : UInt16) :
    t.startOf (tile % columns) t.columnStep =
      if t.leftOf tile columns < 4294967296 then .ok (t.leftOf tile columns)
      else .error (startFault (tile.toNat % columns.toNat) t.columnStep) := by
  rw [startOf_eq, UInt16.toNat_mod, leftOf]

theorem startOf_row (t : Tileset) (tile columns : UInt16) :
    t.startOf (tile / columns) t.rowStep =
      if t.topOf tile columns < 4294967296 then .ok (t.topOf tile columns)
      else .error (startFault (tile.toNat / columns.toNat) t.rowStep) := by
  rw [startOf_eq, UInt16.toNat_div, topOf]

/-- Steps of up to 65536 keep every tile inside the words of 32 bits. -/
theorem placeFits_of_steps (across : t.columnStep ≤ 65536) (down : t.rowStep ≤ 65536)
    (tile columns : UInt16) : t.PlaceFits tile columns := by
  have margin := t.margin.toNat_lt
  have number := tile.toNat_lt
  have bound {n step : Nat} (few : n ≤ 65535) (short : step ≤ 65536) : n * step ≤ 65535 * 65536 :=
    Nat.mul_le_mul few short
  have column := bound (Nat.le_trans (Nat.mod_le tile.toNat columns.toNat) (by omega)) across
  have row := bound (Nat.le_trans (Nat.div_le_self tile.toNat columns.toNat) (by omega)) down
  unfold PlaceFits leftOf topOf
  omega

/-! ## The rectangle of a tile -/

theorem rectAt?_eq_some {left top : Nat} :
    t.rectAt? left top = some r ↔
      left = r.origin.x.toNat ∧ top = r.origin.y.toNat ∧ r.size = t.tileSize := by
  obtain ⟨⟨x, y⟩, size⟩ := r
  simp only [rectAt?, Option.bind_eq_bind, Option.bind_eq_some_iff, word?_eq_some, Option.pure_def,
    Option.some.injEq, Rect.mk.injEq, Vec2.mk.injEq]
  constructor
  · rintro ⟨a, left, b, top, ⟨rfl, rfl⟩, rfl⟩
    exact ⟨left, top, rfl⟩
  · rintro ⟨left, top, rfl⟩
    exact ⟨x, left, y, top, ⟨rfl, rfl⟩, rfl⟩

/-- For a tile of the set the place decides, once there is a column. -/
theorem tileRect?_eq (t : Tileset) (tile width : UInt16) :
    t.tileRect? tile width =
      if tile < t.tileCount ∧ 0 < t.columnsFor width then
        if t.PlaceFits tile (t.columnsFor width) then
          .ok (t.rectAt? (t.leftOf tile (t.columnsFor width)) (t.topOf tile (t.columnsFor width)))
        else .error (t.placeFault tile (t.columnsFor width))
      else .ok none := by
  unfold tileRect?
  dsimp only
  by_cases counted : tile < t.tileCount
  · rw [if_neg (UInt16.not_le.mpr counted)]
    by_cases columns : t.columnsFor width = 0
    · rw [if_pos columns, if_neg fun present => (UInt16.pos_iff_ne_zero.mp present.2) columns]
    · rw [if_neg columns, if_pos ⟨counted, UInt16.pos_iff_ne_zero.mpr columns⟩, startOf_column,
        startOf_row, placeFault]
      -- the row is not looked at behind a fault in the column
      by_cases left : t.leftOf tile (t.columnsFor width) < 4294967296
      · by_cases top : t.topOf tile (t.columnsFor width) < 4294967296
        · have fits : t.PlaceFits tile (t.columnsFor width) := ⟨left, top⟩
          rw [if_pos left, if_pos top, if_pos fits]
          rfl
        · have great : ¬t.PlaceFits tile (t.columnsFor width) := fun fits => top fits.2
          rw [if_pos left, if_neg top, if_neg great, if_pos left]
          rfl
      · have great : ¬t.PlaceFits tile (t.columnsFor width) := fun fits => left fits.1
        rw [if_neg left, if_neg great, if_neg left]
        rfl
  · rw [if_pos (UInt16.not_lt.mp counted), if_neg fun present => counted present.1]

theorem tileRect?_eq_error_iff :
    t.tileRect? tile width = .error fault ↔
      tile < t.tileCount ∧ 0 < t.columnsFor width ∧ ¬t.PlaceFits tile (t.columnsFor width) ∧
        t.placeFault tile (t.columnsFor width) = fault := by
  rw [tileRect?_eq]
  split
  · rename_i present
    split
    · rename_i fits
      simp [fits]
    · rename_i great
      simp [present, great]
  · rename_i absent
    simp only [reduceCtorEq, false_iff]
    exact fun ⟨counted, columns, _⟩ => absent ⟨counted, columns⟩

theorem tileRect?_eq_some_iff :
    t.tileRect? tile width = .ok (some r) ↔
      tile < t.tileCount ∧ 0 < t.columnsFor width ∧
        t.leftOf tile (t.columnsFor width) = r.origin.x.toNat ∧
        t.topOf tile (t.columnsFor width) = r.origin.y.toNat ∧ r.size = t.tileSize := by
  rw [tileRect?_eq, ← rectAt?_eq_some]
  split
  · rename_i present
    split
    · simp [present]
    · rename_i great
      simp only [present, true_and, reduceCtorEq, false_iff]
      -- a place that is one of 16-bit words is also one of 32-bit words
      intro found
      obtain ⟨left, top, -⟩ := rectAt?_eq_some.mp found
      have x_lt := r.origin.x.toNat_lt
      have y_lt := r.origin.y.toNat_lt
      exact great ⟨by omega, by omega⟩
  · rename_i absent
    simp only [Except.ok.injEq, reduceCtorEq, false_iff]
    exact fun ⟨counted, columns, _⟩ => absent ⟨counted, columns⟩

theorem tileRect?_size (found : t.tileRect? tile width = .ok (some r)) : r.size = t.tileSize :=
  (tileRect?_eq_some_iff.mp found).2.2.2.2

theorem exists_tileRect? :
    (∃ r, t.tileRect? tile width = .ok (some r)) ↔
      tile < t.tileCount ∧ 0 < t.columnsFor width ∧
        t.leftOf tile (t.columnsFor width) < 65536 ∧ t.topOf tile (t.columnsFor width) < 65536 := by
  constructor
  · rintro ⟨r, found⟩
    obtain ⟨counted, columns, left, top, -⟩ := tileRect?_eq_some_iff.mp found
    exact ⟨counted, columns, left ▸ r.origin.x.toNat_lt, top ▸ r.origin.y.toNat_lt⟩
  · rintro ⟨counted, columns, left, top⟩
    exact ⟨⟨.ofNats (t.leftOf tile (t.columnsFor width)) (t.topOf tile (t.columnsFor width)),
      t.tileSize⟩, tileRect?_eq_some_iff.mpr ⟨counted, columns,
        (Vec2.toNat_toUInt16 left).symm, (Vec2.toNat_toUInt16 top).symm, rfl⟩⟩

/-- Stretches of some extent that start one step after the other have no place in common. -/
theorem same_stretch {margin extent step m n at_ : Nat} (le : extent ≤ step)
    (here : margin + m * step ≤ at_ ∧ at_ < margin + m * step + extent)
    (there : margin + n * step ≤ at_ ∧ at_ < margin + n * step + extent) : m = n := by
  rcases Nat.lt_trichotomy m n with lt | equal | lt
  · have := row_end_le lt le
    omega
  · exact equal
  · have := row_end_le lt le
    omega

/-- A tile has a rectangle exactly if it is in the set, the image has a column and its place in
unbounded numbers is one of 16-bit words. The corner is that place, and the extent that of all
tiles. Any other tile has none, but where a product or a sum on the way to the place is no word of
32 bits, the computation ends in a fault; the steps themselves always are. Different tiles with a
rectangle have no pixel in common. -/
theorem tileRect?_exact (t : Tileset) (tile width : UInt16) :
    ((∃ r, t.tileRect? tile width = .ok (some r)) ↔
      tile < t.tileCount ∧ 0 < t.columnsFor width ∧
        t.leftOf tile (t.columnsFor width) < 65536 ∧ t.topOf tile (t.columnsFor width) < 65536) ∧
      (∀ r, t.tileRect? tile width = .ok (some r) →
        r.origin.x.toNat = t.leftOf tile (t.columnsFor width) ∧
          r.origin.y.toNat = t.topOf tile (t.columnsFor width) ∧ r.size = t.tileSize) ∧
      (t.columnStep < 4294967296 ∧ t.rowStep < 4294967296) ∧
      (∀ fault, t.tileRect? tile width = .error fault ↔
        tile < t.tileCount ∧ 0 < t.columnsFor width ∧ ¬t.PlaceFits tile (t.columnsFor width) ∧
          t.placeFault tile (t.columnsFor width) = fault) ∧
      ∀ other, other ≠ tile → ∀ r s,
        t.tileRect? tile width = .ok (some r) → t.tileRect? other width = .ok (some s) →
        ∀ q, ¬(r.contains q = true ∧ s.contains q = true) := by
  refine ⟨exists_tileRect?, ?_, t.steps_lt, fun fault => tileRect?_eq_error_iff, ?_⟩
  · intro r found
    obtain ⟨-, -, left, top, size⟩ := tileRect?_eq_some_iff.mp found
    exact ⟨left.symm, top.symm, size⟩
  · rintro other different r s found other_found q ⟨here, there⟩
    obtain ⟨-, columns, left, top, size⟩ := tileRect?_eq_some_iff.mp found
    obtain ⟨-, -, other_left, other_top, other_size⟩ := tileRect?_eq_some_iff.mp other_found
    rw [Rect.contains_iff, ← left, ← top, size] at here
    rw [Rect.contains_iff, ← other_left, ← other_top, other_size] at there
    have column := same_stretch (Nat.le_add_right _ _) ⟨here.1, here.2.2.1⟩ ⟨there.1, there.2.2.1⟩
    have row := same_stretch (Nat.le_add_right _ _) ⟨here.2.1, here.2.2.2⟩ ⟨there.2.1, there.2.2.2⟩
    have number := Nat.div_add_mod tile.toNat (t.columnsFor width).toNat
    rw [column, row, Nat.div_add_mod] at number
    exact different (UInt16.toNat_inj.mp number)

/-- Seven tiles of 4 by 6 pixels with a margin of one and gaps of two, in two columns: the last one
is where it should be, beside the one before. -/
theorem tileRect?_exact_last :
    let t : Tileset := ⟨.null .bitmap, ⟨4, 6⟩, 7, 1, 1, 2, none⟩
    t.tileRect? 6 13 = .ok (some (.ofParts 1 25 4 6)) ∧
      t.tileRect? 5 13 = .ok (some (.ofParts 7 17 4 6)) ∧
      ¬((Rect.ofParts 1 25 4 6).contains ⟨4, 25⟩ = true ∧
        (Rect.ofParts 7 17 4 6).contains ⟨4, 25⟩ = true) := by
  intro t
  have last : t.tileRect? 6 13 = .ok (some (.ofParts 1 25 4 6)) := by decide
  have before : t.tileRect? 5 13 = .ok (some (.ofParts 7 17 4 6)) := by decide
  obtain ⟨-, -, -, -, apart⟩ := tileRect?_exact t 6 13
  exact ⟨last, before, apart 5 (by decide) _ _ last before ⟨4, 25⟩⟩

/-- With steps of 131070 the product for tile 32769 is no word of 32 bits. The tile should have no
rectangle, and instead the computation ends. -/
theorem not_tileRect?_exact :
    ¬∀ (t : Tileset) (tile width : UInt16),
      ¬(tile < t.tileCount ∧ 0 < t.columnsFor width ∧
        t.leftOf tile (t.columnsFor width) < 65536 ∧ t.topOf tile (t.columnsFor width) < 65536) →
      t.tileRect? tile width = .ok none := by
  intro exactly
  let t : Tileset := ⟨.null .bitmap, ⟨65535, 1⟩, 65535, 1, 0, 65535, some 65535⟩
  have stops : t.tileRect? 32769 1 = .error .product := by decide
  have place : t.leftOf 32769 (t.columnsFor 1) = 4295032830 := by decide
  have none := exactly t 32769 1 fun fits => absurd fits.2.2.1 (by rw [place]; decide)
  rw [stops] at none
  exact absurd none (by decide)

end Tileset

end TileEngine
