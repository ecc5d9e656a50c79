import TileEngine.Proofs.Bitmap.PerPixel

/-!
Single pixels, bit by bit. A write at a position sets the bits of its own pixel: of the other
pixels, of the ends of the rows and of everything else around it no bit changes. What is painted in
one colour is described by its area, pixel by pixel or in one go, and two paintings of one area are
the same bitmap. So a bitmap that is filled is one whose pixels were all set, in whatever order.
-/

namespace TileEngine

namespace Bitmap

variable {a b out : Bitmap} {p q : Vec2} {color : Color} {x y j : Nat}

/-! ## Writes of one pixel -/

/-- The bit of a pixel, counted from the left, when it is given a colour. -/
def colorBit (b : Bitmap) (color : Color) (k : Nat) : Bool :=
  if b.depth = .trueColor32 then bitOf ((texelBytes color).getD (k / 8) 0) (k % 8)
  else indexBit b.depth (b.effectivePalette.nearestIndex color) k

theorem SameShape.colorBit (h : SameShape a b) : a.colorBit = b.colorBit := by
  funext color k
  rw [Bitmap.colorBit, Bitmap.colorBit, h.depth, h.effectivePalette]

/-- Giving a pixel a colour sets the bits of this pixel and leaves all others alone. -/
theorem bitAt_setColor (wf : b.WellFormed) (inside : q.inside b.size = true) (color : Color)
    (hy : y < b.size.y.toNat) (hj : j < 8 * b.stride) :
    (b.setColor q color).bitAt y j =
      if y = q.y.toNat ∧ j / b.depth.bits = q.x.toNat then b.colorBit color (j % b.depth.bits)
      else b.bitAt y j := by
  have column := (Vec2.inside_iff.mp inside).1
  by_cases indexed : b.depth.isIndexed = true
  · have narrow : ¬b.depth = .trueColor32 := by
      intro wide
      rw [wide] at indexed
      contradiction
    rw [setColor_indexed indexed inside, bitAt_writeIndex wf indexed column _ hy hj, colorBit,
      if_neg narrow]
  · have wide := trueColor32_of_not_indexed indexed
    rw [setColor_trueColor32 wide inside, bitAt_writeTexel wf wide column color hy hj, colorBit,
      if_pos wide, wide, Depth.bits]

/-! ## Areas of one colour -/

/-- `out` is `b` with one colour on an area, given by columns and rows: in a pixel of the area all
bits are those of the colour, and no other bit of the buffer has changed. -/
structure Coated (b out : Bitmap) (color : Color) (area : Nat → Nat → Prop) : Prop where
  shape : SameShape out b
  inside : ∀ y < b.size.y.toNat, ∀ j < 8 * b.stride, area (j / b.depth.bits) y →
    out.bitAt y j = b.colorBit color (j % b.depth.bits)
  outside : ∀ y < b.size.y.toNat, ∀ j < 8 * b.stride, ¬area (j / b.depth.bits) y →
    out.bitAt y j = b.bitAt y j

namespace Coated

variable {area more : Nat → Nat → Prop}

theorem nothing (b : Bitmap) (color : Color) : Coated b b color fun _ _ => False :=
  ⟨SameShape.refl b, fun _ _ _ _ none => none.elim, fun _ _ _ _ _ => rfl⟩

/-- A second coat of the same colour covers what either of them covers. -/
theorem trans (first : Coated a b color area) (second : Coated b out color more) :
    Coated a out color fun x y => area x y ∨ more x y := by
  have size := first.shape.size
  have depth := first.shape.depth
  have stride := first.shape.stride
  refine ⟨second.shape.trans first.shape, fun y hy j hj covered => ?_, fun y hy j hj free => ?_⟩
  · have later := second.inside y (size ▸ hy) j (stride ▸ hj)
    have kept := second.outside y (size ▸ hy) j (stride ▸ hj)
    rw [depth, first.shape.colorBit] at later
    rw [depth] at kept
    -- where both cover, the later coat is the one that is seen
    by_cases again : more (j / a.depth.bits) y
    · exact later again
    · rw [kept again]
      exact first.inside y hy j hj (covered.resolve_right again)
  · have kept := second.outside y (size ▸ hy) j (stride ▸ hj)
    rw [depth] at kept
    rw [kept fun covered => free (.inr covered)]
    exact first.outside y hy j hj fun covered => free (.inl covered)

theorem congr (h : Coated b out color area) (same : ∀ x y, area x y ↔ more x y) :
    Coated b out color more :=
  ⟨h.shape, fun y hy j hj covered => h.inside y hy j hj ((same _ _).mpr covered),
    fun y hy j hj free => h.outside y hy j hj fun covered => free ((same _ _).mp covered)⟩

/-- Colour and area determine the bitmap. -/
theorem unique (wf : b.WellFormed) (ha : Coated b a color area) (h : Coated b out color area) :
    a = out := by
  refine eq_of_bits (h.shape.wellFormed wf) (ha.shape.trans h.shape.symm) fun y hy j hj => ?_
  rw [h.shape.size] at hy
  rw [h.shape.stride] at hj
  by_cases covered : area (j / b.depth.bits) y
  · rw [ha.inside y hy j hj covered, h.inside y hy j hj covered]
  · rw [ha.outside y hy j hj covered, h.outside y hy j hj covered]

end Coated

theorem coated_setColor (wf : b.WellFormed) (q : Vec2) (color : Color) :
    Coated b (b.setColor q color) color fun x y =>
      q.inside b.size = true ∧ x = q.x.toNat ∧ y = q.y.toNat := by
  by_cases inside : q.inside b.size = true
  · refine ⟨sameShape_setColor b q color, fun y hy j hj covered => ?_, fun y hy j hj free => ?_⟩
    · rw [bitAt_setColor wf inside color hy hj, if_pos ⟨covered.2.2, covered.2.1⟩]
    · rw [bitAt_setColor wf inside color hy hj, if_neg fun here => free ⟨inside, here.2, here.1⟩]
  · rw [setColor_outside inside]
    exact (Coated.nothing b color).congr fun x y => by simp [inside]

/-- Setting pixels one after the other covers those of them that are inside. -/
theorem coated_setColors (wf : b.WellFormed) (color : Color) (ps : List Vec2) :
    Coated b (ps.foldl (fun s q => s.setColor q color) b) color fun x y =>
      ∃ q ∈ ps, q.inside b.size = true ∧ x = q.x.toNat ∧ y = q.y.toNat := by
  induction ps generalizing b with
  | nil => exact (Coated.nothing b color).congr fun x y => by simp
  | cons q rest ih =>
    have first := coated_setColor wf q color
    have others := ih (first.shape.wellFormed wf)
    rw [first.shape.size] at others
    exact (first.trans others).congr fun x y => by simp

/-! ## Filling -/

/-- Indices that are written to all pixels, bit by bit. -/
theorem bitAt_scan_index (wf : b.WellFormed) (indexed : b.depth.isIndexed) (i : UInt8)
    (hy : y < b.size.y.toNat) (hj : j < 8 * b.stride) :
    (scan b.size (fun x y s => s.writeIndex x y i) b).bitAt y j =
      if j / b.depth.bits < b.size.x.toNat then indexBit b.depth i (j % b.depth.bits)
      else b.bitAt y j := by
  have write (column line : Nat) (hx : column < b.size.x.toNat) (s : Bitmap) (shape : SameShape s b) :
      (s.writeIndex column line i).bitAt y j =
        if y = line ∧ j / b.depth.bits = column then indexBit b.depth i (j % b.depth.bits)
        else s.bitAt y j := by
    rw [bitAt_writeIndex (shape.wellFormed wf) (shape.depth ▸ indexed) (shape.size ▸ hx) i
      (shape.size ▸ hy) (shape.stride ▸ hj), shape.depth]
  have read := @scan_read _ _ b.size (fun x y s => s.writeIndex x y i) (fun s => s.bitAt y j)
    (SameShape · b) (fun column line => y = line ∧ j / b.depth.bits = column)
    (indexBit b.depth i (j % b.depth.bits))
    (fun column _ line _ s shape => (sameShape_writeIndex s column line i).trans shape)
    (fun column hx line _ s shape own => by rw [write column line hx s shape, if_pos own])
    (fun column hx line _ s shape other => by rw [write column line hx s shape, if_neg other])
    b (SameShape.refl b)
  by_cases covered : j / b.depth.bits < b.size.x.toNat
  · rw [if_pos covered]
    exact read.1 ⟨_, covered, y, hy, rfl, rfl⟩
  · rw [if_neg covered]
    refine read.2 ?_
    rintro ⟨column, hx, line, -, -, rfl⟩
    exact covered hx

/-- Filling gives every pixel the bits of the colour, whole rows at a time where pixels are whole
bytes, and touches nothing behind the last column. -/
theorem bitAt_fill (wf : b.WellFormed) (color : Color) (hy : y < b.size.y.toNat)
    (hj : j < 8 * b.stride) :
    (b.fill color).bitAt y j =
      if j / b.depth.bits < b.size.x.toNat then b.colorBit color (j % b.depth.bits)
      else b.bitAt y j := by
  have columns := b.depth.bits_le_stride b.size.x
  change _ ≤ 8 * b.stride at columns
  unfold fill
  split
  · rename_i depth
    rw [depth, Depth.bits] at columns
    rw [bitAt_fillRows wf (by rw [length_texels]; omega) hy hj, length_texels, colorBit, if_pos depth,
      depth, Depth.bits]
    by_cases covered : j / 32 < b.size.x.toNat
    · rw [if_pos (by omega), if_pos covered, getD_texels _ _ (by omega),
        show j / 8 % 4 = j % 32 / 8 by omega, show j % 32 % 8 = j % 8 by omega]
    · rw [if_neg (by omega), if_neg covered]
  · rename_i depth
    have own : b.effectivePalette = b.palette := by simp [effectivePalette, depth]
    rw [depth, Depth.bits] at columns
    rw [bitAt_fillRows wf (by rw [List.length_replicate]; omega) hy hj, List.length_replicate, colorBit,
      own, indexBit, depth, Depth.bits, if_neg (show ¬Depth.indexed8 = .trueColor32 by decide),
      if_neg (show ¬Depth.indexed8 = .mono1 by decide)]
    by_cases covered : j / 8 < b.size.x.toNat
    · rw [if_pos covered, if_pos covered]
      simp [List.getD_eq_getElem?_getD, covered]
    · rw [if_neg covered, if_neg covered]
  · rename_i depth
    rw [bitAt_scan_index wf (by rw [depth]; rfl) _ hy hj, colorBit,
      if_neg (show ¬b.depth = .trueColor32 by rw [depth]; decide)]

theorem coated_fill (wf : b.WellFormed) (color : Color) :
    Coated b (b.fill color) color fun x y => x < b.size.x.toNat ∧ y < b.size.y.toNat := by
  refine ⟨sameShape_fill b color, fun y hy j hj covered => ?_, fun y hy j hj free => ?_⟩
  · rw [bitAt_fill wf color hy hj, if_pos covered.1]
  · rw [bitAt_fill wf color hy hj, if_neg fun column => free ⟨column, hy⟩]

/-- Setting all pixels, in whatever order and however often, is filling. -/
theorem setColors_eq_fill (wf : b.WellFormed) (color : Color) {ps : List Vec2}
    (all : ∀ q : Vec2, q.inside b.size = true → q ∈ ps) :
    ps.foldl (fun s q => s.setColor q color) b = b.fill color := by
  refine Coated.unique wf ((coated_setColors wf color ps).congr fun x y => ?_) (coated_fill wf color)
  constructor
  · rintro ⟨q, -, inside, rfl, rfl⟩
    exact Vec2.inside_iff.mp inside
  · rintro ⟨hx, hy⟩
    have inside := Vec2.inside_ofNats hx hy
    exact ⟨Vec2.ofNats x y, all _ inside, inside, (Vec2.toNat_ofNats_x hx).symm,
      (Vec2.toNat_ofNats_y hy).symm⟩

/-! ## The rest of the bitmap -/

/-- Pixels of one shape answer alike when they store the same. -/
theorem asked_of_stored (shape : SameShape a b)
    (same : q.inside b.size = true → a.stored q.x.toNat q.y.toNat = b.stored q.x.toNat q.y.toNat) :
    a.getIndex q = b.getIndex q ∧ a.colorAt q = b.colorAt q := by
  constructor
  · apply Option.ext
    intro i
    rw [getIndex_eq_some_iff, getIndex_eq_some_iff, shape.size]
    exact and_congr_right fun inside => by rw [same inside]
  · rw [colorAt_eq, colorAt_eq, shape.size]
    split
    · rename_i inside
      rw [shownAt, shownAt, same inside, shape.decode]
    · rfl

/-- `out` is `b` but for the pixel at a position, if there is one. All bits that are not of this
pixel are the same, those behind the rows too, and no other position answers differently. Padding
keeps its value; in true colour this is so because it is zero, as in every canonical bitmap: the
fourth byte of a colour that is written is zero. -/
structure ChangesOnly (b out : Bitmap) (p : Vec2) : Prop where
  shape : SameShape out b
  bits : ∀ y < b.size.y.toNat, ∀ j < 8 * b.stride,
    ¬(y = p.y.toNat ∧ j / b.depth.bits = p.x.toNat) → out.bitAt y j = b.bitAt y j
  pixels : ∀ q, q ≠ p → out.getIndex q = b.getIndex q ∧ out.colorAt q = b.colorAt q
  padding : b.depth.isIndexed ∨ b.Canonical → ∀ y < b.size.y.toNat, ∀ j < 8 * b.stride,
    b.depth.IsPadding b.size.x j → out.bitAt y j = b.bitAt y j
  outside : ¬p.inside b.size = true → out = b

theorem ChangesOnly.nothing (b : Bitmap) (p : Vec2) : ChangesOnly b b p :=
  ⟨SameShape.refl b, fun _ _ _ _ _ => rfl, fun _ _ => ⟨rfl, rfl⟩, fun _ _ _ _ _ _ => rfl,
    fun _ => rfl⟩

/-- For a position inside it is enough to look at the bits. -/
theorem ChangesOnly.of_bits (inside : p.inside b.size = true) (shape : SameShape out b)
    (clean : b.Canonical → out.Canonical)
    (bits : ∀ y < b.size.y.toNat, ∀ j < 8 * b.stride,
      ¬(y = p.y.toNat ∧ j / b.depth.bits = p.x.toNat) → out.bitAt y j = b.bitAt y j) :
    ChangesOnly b out p := by
  refine ⟨shape, bits, fun q other => asked_of_stored shape fun q_inside => ?_, ?_,
    fun outside => absurd inside outside⟩
  · -- the value bits of another pixel are none of those that may have changed
    obtain ⟨hx, hy⟩ := Vec2.inside_iff.mp q_inside
    refine (stored_eq_iff_bits shape.depth).mpr fun m hm => ?_
    apply bits _ hy _ (Depth.bit_lt_stride hx hm)
    rintro ⟨row, column⟩
    have value := b.depth.valueBits_le
    rw [Nat.mul_comm, Nat.mul_add_div b.depth.bits_pos, Nat.div_eq_of_lt (by omega), Nat.add_zero]
      at column
    exact other (Vec2.ext_toNat column row)
  · rintro (indexed | canonical) y hy j hj padding
    · -- the end of a row is in no pixel
      have column := (Vec2.inside_iff.mp inside).1
      rw [Depth.isPadding_indexed indexed] at padding
      have past := (Nat.le_div_iff_mul_le b.depth.bits_pos).mpr padding
      exact bits y hy j hj fun here => by omega
    · exact (clean canonical).padding_eq canonical shape y hy j hj padding

theorem changesOnly_setIndex (wf : b.WellFormed) (indexed : b.depth.isIndexed) (p : Vec2) (i : UInt8) :
    ∃ out, b.setIndex p i = .ok out ∧ ChangesOnly b out p ∧
      (p.inside b.size = true → out.getIndex p = some (b.depth.kept i)) := by
  by_cases inside : p.inside b.size = true
  · obtain ⟨hx, hy⟩ := Vec2.inside_iff.mp inside
    have shape := sameShape_writeIndex b p.x.toNat p.y.toNat i
    refine ⟨b.writeIndex p.x.toNat p.y.toNat i, by simp [setIndex, indexed, inside], ?_, fun _ => ?_⟩
    · refine ChangesOnly.of_bits inside shape (·.writeIndex hx i) fun y hy j hj elsewhere => ?_
      rw [bitAt_writeIndex wf indexed hx i hy hj, if_neg elsewhere]
    · rw [getIndex_eq_some_iff, shape.size, stored_writeIndex wf indexed hx hy i hx, if_pos ⟨rfl, rfl⟩]
      exact ⟨inside, rfl⟩
  · exact ⟨b, by simp [setIndex, indexed, inside], ChangesOnly.nothing b p,
      fun here => absurd here inside⟩

theorem changesOnly_setColor (wf : b.WellFormed) (p : Vec2) (color : Color) :
    ChangesOnly b (b.setColor p color) p := by
  by_cases inside : p.inside b.size = true
  · refine ChangesOnly.of_bits inside (sameShape_setColor b p color) (·.setColor p color) ?_
    intro y hy j hj elsewhere
    rw [bitAt_setColor wf inside color hy hj, if_neg elsewhere]
  · rw [setColor_outside inside]
    exact ChangesOnly.nothing b p

/-- A pixel that is given a colour has it in true colour; an indexed one has the nearest entry. -/
theorem asked_setColor (wf : b.WellFormed) (inside : p.inside b.size = true) (color : Color) :
    (b.depth = .trueColor32 → (b.setColor p color).colorAt p = some color) ∧
      (b.depth.isIndexed →
        (b.setColor p color).getIndex p = some (b.effectivePalette.nearestIndex color)) := by
  have shape := sameShape_setColor b p color
  have stored : (b.setColor p color).stored p.x.toNat p.y.toNat = b.encode color := by
    rw [stored_setColor wf inside color (Vec2.inside_iff.mp inside).1, if_pos ⟨rfl, rfl⟩]
  constructor
  · intro wide
    rw [colorAt_eq, shape.size, if_pos inside, shownAt, stored, encode_trueColor32 wide]
    rfl
  · intro indexed
    rw [getIndex_eq_some_iff, shape.size, stored, encode_indexed indexed]
    exact ⟨inside, rfl⟩

/-- The laws of the pixels of a well-formed bitmap. An index that is set is what can be read
there, or its lowest bit where a pixel is one bit, and in true colour so is a colour. Either write
changes its own pixel only, and nothing at a position outside. Filling leaves the very bitmap that
setting all pixels to the colour leaves. -/
theorem pixel_laws (wf : b.WellFormed) :
    (b.depth.isIndexed → ∀ (p : Vec2) (i : UInt8), ∃ out, b.setIndex p i = .ok out ∧
      ChangesOnly b out p ∧ (p.inside b.size = true → out.getIndex p = some (b.depth.kept i))) ∧
    (∀ (p : Vec2) (color : Color), ChangesOnly b (b.setColor p color) p ∧
      (p.inside b.size = true →
        (b.depth = .trueColor32 → (b.setColor p color).colorAt p = some color) ∧
        (b.depth.isIndexed →
          (b.setColor p color).getIndex p = some (b.effectivePalette.nearestIndex color)))) ∧
    ∀ (color : Color) (ps : List Vec2), (∀ q : Vec2, q.inside b.size = true → q ∈ ps) →
      ps.foldl (fun s q => s.setColor q color) b = b.fill color :=
  ⟨changesOnly_setIndex wf,
    fun p color => ⟨changesOnly_setColor wf p color, fun inside => asked_setColor wf inside color⟩,
    fun color _ all => setColors_eq_fill wf color all⟩

/-- Three pixels of one bit between padding that is set. An even index clears the middle one and
nothing around it; to blacken all of them from the right, with a step outside, is to fill. -/
theorem pixel_laws_one_bit :
    let b : Bitmap := ⟨⟨3, 1⟩, .mono1, #[0xFF, 0xFF, 0xFF, 0xFF], Palette.empty⟩
    b.WellFormed ∧ b.depth.isIndexed ∧
      (∃ out, b.setIndex ⟨1, 0⟩ 6 = .ok out ∧ out.getIndex ⟨1, 0⟩ = some 0 ∧
        out.getIndex ⟨2, 0⟩ = some 1 ∧ out.bitAt 0 3 = true) ∧
      [⟨2, 0⟩, ⟨7, 7⟩, ⟨1, 0⟩, ⟨0, 0⟩].foldl (fun s q => s.setColor q .black) b = b.fill .black := by
  intro b
  have wf : b.WellFormed := ⟨by decide, by decide⟩
  obtain ⟨set, -, fill⟩ := pixel_laws wf
  obtain ⟨out, made, changes, own⟩ := set rfl ⟨1, 0⟩ 6
  refine ⟨wf, rfl, ⟨out, made, own (by decide), ?_, ?_⟩, fill _ _ fun q inside => ?_⟩
  · rw [(changes.pixels ⟨2, 0⟩ (by decide)).1]
    decide
  · rw [changes.padding (.inl rfl) 0 (by decide) 3 (by decide) (.inl (by decide))]
    decide
  · obtain ⟨column, row⟩ := Vec2.inside_iff.mp inside
    change q.x.toNat < 3 at column
    change q.y.toNat < 1 at row
    have top : q.y.toNat = 0 := by omega
    obtain left | middle | right : q.x.toNat = 0 ∨ q.x.toNat = 1 ∨ q.x.toNat = 2 := by omega
    · simp [show q = ⟨0, 0⟩ from Vec2.ext_toNat left top]
    · simp [show q = ⟨1, 0⟩ from Vec2.ext_toNat middle top]
    · simp [show q = ⟨2, 0⟩ from Vec2.ext_toNat right top]

end Bitmap

end TileEngine
