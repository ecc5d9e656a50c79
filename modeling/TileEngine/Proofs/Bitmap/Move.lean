import TileEngine.Proofs.Bitmap.Detour

/-!
A move inside one bitmap. The rows are copied in place, one after the other, in an order in which
no row is read after it was overwritten: downwards from the last row on, in all other cases from
the first. So every row is read as it was before the move, also where the rectangle and its target
overlap. A single-bit bitmap takes its rectangle out first, and the detours that this may need
are exact when the palette has two colours.
-/

namespace TileEngine

namespace Bitmap

variable {b s : Bitmap} {c r : Rect} {p : Vec2} {x y row : Nat} {done rows : List Nat}

/-! ## Rows in place -/

/-- The rows of a move in the order in which they are copied. -/
def moveOrder (c : Rect) (p : Vec2) : List Nat :=
  if p.y > c.origin.y then (List.range c.size.y.toNat).reverse else List.range c.size.y.toNat

theorem mem_moveOrder : row ∈ moveOrder c p ↔ row < c.size.y.toNat := by
  unfold moveOrder
  split
  · rw [List.mem_reverse, List.mem_range]
  · rw [List.mem_range]

/-- After a copy of row `first`, row `later` of the source is still what it was. -/
def Spares (c : Rect) (p : Vec2) (first later : Nat) : Prop :=
  p.y.toNat + first ≠ c.origin.y.toNat + later

/-- No row is read after it was overwritten. -/
theorem moveOrder_spares (c : Rect) (p : Vec2) : (moveOrder c p).Pairwise (Spares c p) := by
  have ascending := List.pairwise_lt_range (n := c.size.y.toNat)
  unfold moveOrder
  split
  · rename_i down
    rw [gt_iff_lt, UInt16.lt_iff_toNat_lt] at down
    rw [List.pairwise_reverse]
    refine ascending.imp fun lt => ?_
    unfold Spares
    omega
  · rename_i up
    rw [gt_iff_lt, UInt16.lt_iff_toNat_lt] at up
    refine ascending.imp fun lt => ?_
    unfold Spares
    omega

/-- Some rows of a move are done: their target stores what the source stored before the move, and
every other pixel what it stored itself. -/
structure Moved (b : Bitmap) (c : Rect) (p : Vec2) (done : List Nat) (s : Bitmap) : Prop where
  shape : SameShape s b
  copied : ∀ x < b.size.x.toNat, ∀ y < b.size.y.toNat, (∃ row ∈ done, WritesTo c p row x y) →
    s.stored x y = b.storedFrom c p x y
  frame : ∀ x < b.size.x.toNat, ∀ y < b.size.y.toNat, (¬∃ row ∈ done, WritesTo c p row x y) →
    s.stored x y = b.stored x y

theorem moved_nil (b : Bitmap) (c : Rect) (p : Vec2) : Moved b c p [] b :=
  ⟨SameShape.refl b, by simp, fun _ _ _ _ _ => rfl⟩

/-- A row that the rows before it have spared is copied as it was before the move. -/
theorem Moved.moveRow (h : Moved b c p done s) (wf : b.WellFormed)
    (placed : Rect.Placed b.size b.size c p) (bytes : b.depth ≠ .mono1)
    (inside : row < c.size.y.toNat) (spared : ∀ first ∈ done, Spares c p first row) :
    Moved b c p (done ++ [row]) (moveRow b c p s row) := by
  have fit : RowsFit b s c p :=
    ⟨h.shape.size.symm ▸ placed, h.shape.depth, fun mono => absurd mono bytes⟩
  have step {x y : Nat} (hx : x < b.size.x.toNat) (hy : y < b.size.y.toNat) :
      (copyRow b s c p s row).stored x y = if WritesTo c p row x y then _ else s.stored x y :=
    stored_copyRow fit (h.shape.wellFormed wf) h.shape hx hy
  refine ⟨(sameShape_copyRow b s c p s row).trans h.shape, ?_, ?_⟩
  · intro x hx y hy written
    rw [Bitmap.moveRow, step hx hy]
    split
    · rename_i here
      obtain ⟨same, left, right⟩ := here
      have := placed.source_x
      have := placed.source_y
      -- no row before this one has written the source
      rw [h.frame, storedFrom, same, Nat.add_sub_cancel_left]
      · omega
      · omega
      · rintro ⟨first, member, same, -⟩
        exact spared first member same.symm
    · rename_i elsewhere
      apply h.copied x hx y hy
      obtain ⟨i, member, here⟩ := written
      rcases List.mem_append.mp member with before | last
      · exact ⟨i, before, here⟩
      · rw [List.mem_singleton.mp last] at here
        exact absurd here elsewhere
  · intro x hx y hy unwritten
    rw [Bitmap.moveRow, step hx hy, if_neg]
    · apply h.frame x hx y hy
      rintro ⟨i, member, here⟩
      exact unwritten ⟨i, List.mem_append_left _ member, here⟩
    · intro here
      exact unwritten ⟨row, by simp, here⟩

theorem Moved.moveRows (h : Moved b c p done s) (wf : b.WellFormed)
    (placed : Rect.Placed b.size b.size c p) (bytes : b.depth ≠ .mono1)
    (inside : ∀ row ∈ rows, row < c.size.y.toNat) (spares : (done ++ rows).Pairwise (Spares c p)) :
    Moved b c p (done ++ rows) (rows.foldl (Bitmap.moveRow b c p) s) := by
  induction rows generalizing done s with
  | nil => simpa using h
  | cons row rest ih =>
    have spared : ∀ first ∈ done, Spares c p first row := by
      intro first member
      exact (List.pairwise_append.mp spares).2.2 first member row (List.mem_cons_self ..)
    have next := h.moveRow wf placed bytes (inside row (List.mem_cons_self ..)) spared
    rw [List.append_cons] at spares ⊢
    exact ih next (fun i member => inside i (List.mem_cons_of_mem _ member)) spares

theorem writesTo_iff_covers :
    (∃ row ∈ moveOrder c p, WritesTo c p row x y) ↔ Rect.Covers p c.size x y := by
  unfold WritesTo Rect.Covers
  constructor
  · rintro ⟨row, member, same, left, right⟩
    rw [mem_moveOrder] at member
    omega
  · rintro ⟨left, top, right, bottom⟩
    refine ⟨y - p.y.toNat, mem_moveOrder.mpr ?_, ?_⟩ <;> omega

/-! ## A move of a rectangle -/

theorem blitWithin_of_clip_none (clipped : Rect.clip b.size b.size r p = none) :
    b.blitWithin r p = b := by
  rw [blitWithin, clipped]

theorem blitWithin_of_bytes (clipped : Rect.clip b.size b.size r p = some c)
    (bytes : b.depth ≠ .mono1) :
    b.blitWithin r p = (moveOrder c p).foldl (moveRow b c p) b := by
  rw [blitWithin, clipped]
  dsimp only
  rw [if_neg bytes, moveSpans, moveRows_eq_foldl]
  rfl

theorem blitWithin_of_mono1 (clipped : Rect.clip b.size b.size r p = some c)
    (mono : b.depth = .mono1) :
    b.blitWithin r p = b.blit (b.cloneRegion c) (b.cloneRegion c).bounds p := by
  rw [blitWithin, clipped]
  dsimp only
  rw [if_pos mono]

/-- A region stores what its rectangle stores, if the palette has two colours. -/
theorem stored_cloneRegion (wf : b.WellFormed) (varied : b.effectivePalette.Varied)
    (left : c.origin.x.toNat + c.size.x.toNat ≤ b.size.x.toNat)
    (top : c.origin.y.toNat + c.size.y.toNat ≤ b.size.y.toNat)
    (hx : x < c.size.x.toNat) (hy : y < c.size.y.toNat) :
    (b.cloneRegion c).stored x y = b.stored (c.origin.x.toNat + x) (c.origin.y.toNat + y) := by
  have placed : Rect.Placed b.size c.size c Vec2.zero :=
    ⟨left, top, by simp [Vec2.zero], by simp [Vec2.zero]⟩
  have clipped := Rect.clip_of_placed placed (by omega) (by omega)
  have covered : Rect.Covers Vec2.zero c.size x y := by
    simp [Rect.Covers, Vec2.zero, hx, hy]
  have start := wellFormed_blank c.size wf.palette_fits
  have palette : (blank c.size b.depth b.palette).palette.same b.palette = true :=
    Palette.same_iff.mpr rfl
  rw [cloneRegion_eq_blit, Rect.clampedTo_of_fits left top,
    stored_blit_same start wf rfl palette (fun _ => varied) clipped hx hy, if_pos covered]
  rfl

/-- The rows in place leave what a copy of them would leave. -/
theorem stored_blitWithin_of_bytes (wf : b.WellFormed) (bytes : b.depth ≠ .mono1)
    (clipped : Rect.clip b.size b.size r p = some c) (hx : x < b.size.x.toNat)
    (hy : y < b.size.y.toNat) :
    (b.blitWithin r p).stored x y =
      if Rect.Covers p c.size x y then b.storedFrom c p x y else b.stored x y := by
  have moved := (moved_nil b c p).moveRows wf (Rect.placed_of_clip clipped) bytes
    (fun _ => mem_moveOrder.mp) (moveOrder_spares c p)
  rw [List.nil_append, ← blitWithin_of_bytes clipped bytes] at moved
  split
  · rename_i covered
    exact moved.copied x hx y hy (writesTo_iff_covers.mpr covered)
  · rename_i outside
    exact moved.frame x hx y hy (mt writesTo_iff_covers.mp outside)

/-- So does a copy of the region. -/
theorem stored_blitWithin_of_mono1 (wf : b.WellFormed) (mono : b.depth = .mono1)
    (varied : b.effectivePalette.Varied) (clipped : Rect.clip b.size b.size r p = some c)
    (hx : x < b.size.x.toNat) (hy : y < b.size.y.toNat) :
    (b.blitWithin r p).stored x y =
      if Rect.Covers p c.size x y then b.storedFrom c p x y else b.stored x y := by
  have placed := Rect.placed_of_clip clipped
  obtain ⟨-, -, -, width, height⟩ := Rect.clip_eq_some_iff.mp clipped
  have shape := sameShape_cloneRegion wf c
  rw [Rect.clampedTo_of_fits placed.source_x placed.source_y] at shape
  have region_wf := shape.wellFormed (wellFormed_blank c.size wf.palette_fits)
  have size : (b.cloneRegion c).size = c.size := shape.size
  have palette : b.palette.same (b.cloneRegion c).palette = true := by
    rw [shape.palette]
    exact Palette.same_iff.mpr rfl
  have room : Rect.Placed c.size b.size (Rect.ofSize c.size) p :=
    ⟨by simp [Rect.ofSize, Vec2.zero], by simp [Rect.ofSize, Vec2.zero], placed.target_x,
      placed.target_y⟩
  have whole : Rect.clip (b.cloneRegion c).size b.size (b.cloneRegion c).bounds p =
      some (Rect.ofSize c.size) := by
    rw [bounds, size]
    exact Rect.clip_of_placed room width height
  rw [blitWithin_of_mono1 clipped mono,
    stored_blit_same wf region_wf shape.depth palette (fun _ => varied) whole hx hy]
  change (if Rect.Covers p c.size x y then _ else _) = _
  by_cases covered : Rect.Covers p c.size x y
  · rw [if_pos covered, if_pos covered, storedFrom]
    obtain ⟨left, top, right, bottom⟩ := covered
    simp only [Rect.ofSize, Vec2.zero, UInt16.toNat_zero, Nat.zero_add]
    exact stored_cloneRegion wf varied placed.source_x placed.source_y (by omega) (by omega)
  · rw [if_neg covered, if_neg covered]

/-- After a move every pixel of the target stores what its source stored before, and every other
one what it stored itself. -/
theorem stored_blitWithin (wf : b.WellFormed)
    (varied : b.depth = .mono1 → b.effectivePalette.Varied)
    (clipped : Rect.clip b.size b.size r p = some c) (hx : x < b.size.x.toNat)
    (hy : y < b.size.y.toNat) :
    (b.blitWithin r p).stored x y =
      if Rect.Covers p c.size x y then b.storedFrom c p x y else b.stored x y := by
  by_cases mono : b.depth = .mono1
  · exact stored_blitWithin_of_mono1 wf mono (varied mono) clipped hx hy
  · exact stored_blitWithin_of_bytes wf mono clipped hx hy

/-- A move inside a bitmap takes its rectangle as it was before the call, wherever the target lies,
if a single-bit bitmap has a palette of two colours: a position with a source pixel has its index
and its colour, every other position keeps its own, and so does all padding. It leaves the bitmap
that a blit from a copy of the bitmap leaves. -/
theorem blitWithin_eq_blit (reachable : b.Reachable)
    (varied : b.depth = .mono1 → b.effectivePalette.Varied) (r : Rect) (p : Vec2) :
    SameShape (b.blitWithin r p) b ∧ Copied (b.blitWithin r p) b b r p ∧
      (∀ y < b.size.y.toNat, ∀ j < 8 * b.stride, b.depth.IsPadding b.size.x j →
        (b.blitWithin r p).bitAt y j = b.bitAt y j) ∧
      b.blitWithin r p = b.blit b r p := by
  have canonical := reachable.canonical
  have wf := canonical.toWellFormed
  have own : b.Detours b r p → b.effectivePalette.Varied := fun detours => varied detours.1
  have palette : b.palette.same b.palette = true := Palette.same_iff.mpr rfl
  obtain ⟨moved, moved_shape⟩ := canonical.blitWithin r p
  have equal : b.blitWithin r p = b.blit b r p := by
    cases clipped : Rect.clip b.size b.size r p with
    | none => rw [blitWithin_of_clip_none clipped, blit_of_clip_none clipped]
    | some c =>
      have shape := sameShape_blit wf b r p
      apply moved.eq_of_stored (canonical.blit canonical r p) (moved_shape.trans shape.symm)
      rw [shape.size]
      intro x hx y hy
      rw [stored_blitWithin wf varied clipped hx hy,
        stored_blit_same wf wf rfl palette own clipped hx hy]
  refine ⟨moved_shape, ?_, moved.padding_eq canonical moved_shape, equal⟩
  rw [equal]
  exact copied_blit wf wf rfl palette own

/-- Down by one row and right by one column, onto a part of the rectangle itself: bytes, and bits
over the start of a byte. -/
theorem blitWithin_eq_blit_overlapping :
    let bytes := (blank ⟨3, 3⟩ .indexed8 Palette.empty).edits
      [.setIndex ⟨0, 0⟩ 1, .setIndex ⟨1, 1⟩ 2]
    let bits := (blank ⟨9, 3⟩ .mono1 Palette.empty).edits [.setIndex ⟨0, 0⟩ 1, .setIndex ⟨7, 1⟩ 1]
    bytes.Reachable ∧ bits.Reachable ∧ bits.effectivePalette.Varied ∧
      (bytes.blitWithin (.ofParts 0 0 2 2) ⟨1, 1⟩).getIndex ⟨1, 1⟩ = some 1 ∧
      (bytes.blitWithin (.ofParts 0 0 2 2) ⟨1, 1⟩).getIndex ⟨2, 2⟩ = some 2 ∧
      (bits.blitWithin (.ofParts 0 0 8 2) ⟨1, 1⟩).getIndex ⟨8, 2⟩ = some 1 := by
  intro bytes bits
  have bytes_reachable : bytes.Reachable := (reachable_blank _ (by decide)).edits _ (by simp)
  have bits_reachable : bits.Reachable := (reachable_blank _ (by decide)).edits _ (by simp)
  have varied : bits.effectivePalette.Varied := ⟨1, by decide +kernel, by decide +kernel⟩
  have wide : bytes.depth ≠ .mono1 := by decide +kernel
  obtain ⟨-, down, -, -⟩ := blitWithin_eq_blit bytes_reachable (fun mono => absurd mono wide)
    (.ofParts 0 0 2 2) ⟨1, 1⟩
  obtain ⟨-, across, -, -⟩ := blitWithin_eq_blit bits_reachable (fun _ => varied)
    (.ofParts 0 0 8 2) ⟨1, 1⟩
  have corner := (down.target ⟨1, 1⟩ ⟨0, 0⟩ (by decide +kernel) (by decide +kernel)).1
  have overlap := (down.target ⟨2, 2⟩ ⟨1, 1⟩ (by decide +kernel) (by decide +kernel)).1
  have bit := (across.target ⟨8, 2⟩ ⟨7, 1⟩ (by decide +kernel) (by decide +kernel)).1
  refine ⟨bytes_reachable, bits_reachable, varied, ?_, ?_, ?_⟩
  · rw [corner]
    decide +kernel
  · rw [overlap]
    decide +kernel
  · rw [bit]
    decide +kernel

end Bitmap

end TileEngine
