import TileEngine.Proofs.Bitmap.Guarded

/-!
Blits always end, and inside of their buffers. A blit leads to others: to one onto the destination
in true colour, to one that takes a region out of the source, to one of the converted source. Here
it is given in this way, over the guarded accesses, with a bound on how many blits may be inside
each other. Every further blit has fewer conversions in front of it (`nesting`), so that four are
enough, whatever the bitmaps hold and wherever the rectangle lies; and no access is stopped.
-/

namespace TileEngine

/-! ## The ways of the plain blit -/

namespace Rect

/-- A rectangle that was clipped is not cut again. -/
theorem clip_again {source destination p : Vec2} {r c : Rect}
    (clipped : clip source destination r p = some c) : clip source destination c p = some c := by
  obtain ⟨-, -, -, width, height⟩ := clip_eq_some_iff.mp clipped
  exact clip_of_placed (placed_of_clip clipped) width height

end Rect

namespace Bitmap

variable {dst src : Bitmap} {r c : Rect} {p : Vec2}

theorem blit_of_trueColor32 (clipped : Rect.clip src.size dst.size r p = some c)
    (wide : dst.depth = .trueColor32) : dst.blit src r p = dst.overlay src c p := by
  unfold Bitmap.blit
  rw [clipped]
  dsimp only
  rw [if_pos wide]

theorem blit_of_not_fast (clipped : Rect.clip src.size dst.size r p = some c)
    (narrow : dst.depth ≠ .trueColor32) (slow : ¬dst.canFastCopy src c p = true) :
    dst.blit src r p = dst.overlayStaged src c p := by
  unfold Bitmap.blit
  rw [clipped]
  dsimp only
  rw [if_neg narrow, if_pos (by simpa using slow)]

theorem blit_of_fast (clipped : Rect.clip src.size dst.size r p = some c)
    (narrow : dst.depth ≠ .trueColor32) (fast : dst.canFastCopy src c p = true) :
    dst.blit src r p =
      if src.depth = dst.depth then dst.copyRows src c p
      else dst.overlaySameDepth (dst.recoded src c).1 (dst.recoded src c).2 p := by
  unfold Bitmap.blit
  rw [clipped]
  dsimp only
  rw [if_neg narrow, if_neg (by simpa using fast)]

/-- A blit of the source in the colours of the destination is one copy. -/
theorem blit_recoded (wf : dst.WellFormed) (src_wf : src.WellFormed)
    (clipped : Rect.clip src.size dst.size r p = some c) :
    dst.blit (dst.recoded src c).1 (dst.recoded src c).2 p =
      dst.overlaySameDepth (dst.recoded src c).1 (dst.recoded src c).2 p := by
  obtain ⟨-, -, -, width, height⟩ := Rect.clip_eq_some_iff.mp clipped
  have stands := standsFor_recoded wf src_wf (Rect.placed_of_clip clipped)
  rw [← stands.extent] at width height
  exact blit_of_depth_eq (Rect.clip_of_placed stands.placed width height) stands.colors.depth

/-- Onto true colour, a blit of the converted source is a blit of the source. -/
theorem blit_converted (src_wf : src.WellFormed) (wf : dst.WellFormed)
    (wide : dst.depth = .trueColor32) (other : src.depth ≠ dst.depth)
    (clipped : Rect.clip src.size dst.size r p = some c) :
    dst.blit (src.convertInto dst.depth dst.palette) c p = dst.blit src r p := by
  have shape := sameShape_convertInto src_wf wf.palette_fits
  have size : (src.convertInto dst.depth dst.palette).size = src.size := shape.size
  have clipped' := Rect.clip_again clipped
  rw [← size] at clipped'
  rw [blit_of_trueColor32 clipped' wide, blit_of_trueColor32 clipped wide, overlay,
    overlay, if_pos (shape.depth.trans wide), if_neg (fun narrow => other (narrow.trans wide.symm)),
    wide]

end Bitmap

/-! ## The guarded copies -/

namespace Guarded

/-- A way to get a rectangle of one bitmap to a position of another. -/
abbrev Blitter := Bitmap → Bitmap → Rect → Vec2 → Except Fault Bitmap

/-- A rectangle, cut to the bitmap, as a bitmap of its own: a blit onto a blank one. -/
def cloneRegion (again : Blitter) (b : Bitmap) (r : Rect) : Except Fault Bitmap :=
  let r := r.clampedTo b.size
  again (Bitmap.blank r.size b.depth b.palette) b r Vec2.zero

/-- A blit by way of true colour. The destination has no buffer while its stand-in is drawn on. -/
def blitStaged (again : Blitter) (dst src : Bitmap) (r : Rect) (p : Vec2) :
    Except Fault Bitmap := do
  let staging ← convertInto dst .trueColor32 dst.palette
  let emptied := { dst with pixels := #[] }
  let staging ← again staging src r p
  let back ← convertInto staging emptied.depth emptied.palette
  return { emptied with pixels := back.pixels }

/-- A blit of the source in the colours of the destination: all of it is converted, or only the
rectangle as a bitmap of its own. -/
def blitRecoded (again : Blitter) (dst src : Bitmap) (r : Rect) (p : Vec2) :
    Except Fault Bitmap :=
  if r = src.bounds || dst.depth = .trueColor32 then do
    let converted ← convertInto src dst.depth dst.palette
    again dst converted r p
  else do
    let region ← cloneRegion again src r
    let region ← convertInto region dst.depth dst.palette
    again dst region region.bounds p

/-- One blit, up to the blits that it leads to. -/
def blitOnce (again : Blitter) (dst src : Bitmap) (r : Rect) (p : Vec2) : Except Fault Bitmap :=
  match Rect.clip src.size dst.size r p with
  | none => return dst
  | some r =>
    if !dst.canFastCopy src r p && dst.depth != .trueColor32 then blitStaged again dst src r p
    else if src.depth != dst.depth then blitRecoded again dst src r p
    else copyRows dst src r p

/-- A blit with at most `depth` blits inside each other, itself included. -/
def blit : (depth : Nat) → Blitter
  | 0 => fun _ _ _ _ => .error .nested
  | depth + 1 => blitOnce (blit depth)

/-- A move of a rectangle inside one bitmap. -/
def blitWithin (again : Blitter) (b : Bitmap) (r : Rect) (p : Vec2) : Except Fault Bitmap :=
  match Rect.clip b.size b.size r p with
  | none => return b
  | some r =>
    if b.depth = .mono1 then do
      let region ← cloneRegion again b r
      again b region region.bounds p
    else moveRows b r p

/-- A sum of coordinates. -/
def word (sum : Nat) : Except Fault UInt16 :=
  if sum < 65536 then .ok sum.toUInt16 else .error (.coordinate sum)

/-- A position moved by a column and a row. -/
def offset (p : Vec2) (x y : Nat) : Except Fault Vec2 := do
  let column ← word (p.x.toNat + x)
  let row ← word (p.y.toNat + y)
  return ⟨column, row⟩

/-- A copy of a rectangle pixel by pixel. -/
def surfaceBlit (dst src : Bitmap) (r : Rect) (p : Vec2) : Except Fault Bitmap :=
  match Rect.clip src.size dst.size r p with
  | none => return dst
  | some r =>
    scan r.size
      (fun x y out => do
        let origin ← offset r.origin x y
        match ← colorAt src origin with
        | some color =>
          let target ← offset p x y
          setColor out target color
        | none => return out) dst

/-! ## Blits inside each other -/

/-- How many blits a blit may still lead to. -/
def nesting (dst src : Bitmap) : Nat :=
  (if dst.depth = .trueColor32 then 0 else 2) + if src.depth = dst.depth then 0 else 1

/-- Blits that lead to fewer than `bound` further ones are not stopped, and do what a blit does. -/
def Goes (again : Blitter) (bound : Nat) : Prop :=
  ∀ dst src : Bitmap, dst.WellFormed → src.WellFormed → nesting dst src < bound →
    ∀ r p, again dst src r p = .ok (dst.blit src r p)

section

variable {again : Blitter} {dst src b : Bitmap} {r c : Rect} {p : Vec2} {bound : Nat}

theorem nesting_le (dst src : Bitmap) : nesting dst src ≤ 3 := by
  unfold nesting
  split <;> split <;> omega

theorem nesting_of_depth_eq (same : src.depth = dst.depth) : nesting dst src ≤ 2 := by
  unfold nesting
  rw [if_pos same]
  split <;> omega

theorem nesting_of_trueColor32 (wide : dst.depth = .trueColor32) : nesting dst src ≤ 1 := by
  unfold nesting
  rw [if_pos wide]
  split <;> omega

theorem le_nesting_of_indexed (src : Bitmap) (narrow : dst.depth ≠ .trueColor32) :
    2 ≤ nesting dst src := by
  unfold nesting
  rw [if_neg narrow]
  omega

/-- A source that was converted to the depth of the destination leads to fewer blits. -/
theorem nesting_lt_of_converted (same : b.depth = dst.depth) (other : src.depth ≠ dst.depth) :
    nesting dst b < nesting dst src := by
  unfold nesting
  rw [if_pos same, if_neg other]
  omega

theorem cloneRegion_eq (goes : Goes again bound) (enough : 2 < bound) (wf : b.WellFormed)
    (r : Rect) : cloneRegion again b r = .ok (b.cloneRegion r) := by
  have start := Bitmap.wellFormed_blank (r.clampedTo b.size).size wf.palette_fits
  have fewer : nesting (Bitmap.blank (r.clampedTo b.size).size b.depth b.palette) b ≤ 2 :=
    nesting_of_depth_eq rfl
  rw [cloneRegion, Bitmap.cloneRegion_eq_blit]
  exact goes _ b start wf (by omega) _ _

theorem blitStaged_eq (goes : Goes again bound) (enough : 1 < bound) (wf : dst.WellFormed)
    (src_wf : src.WellFormed) (clipped : Rect.clip src.size dst.size r p = some c) :
    blitStaged again dst src c p = .ok (dst.overlayStaged src c p) := by
  have shape := Bitmap.sameShape_convert_trueColor32 wf dst.palette
  have wide_wf := shape.wellFormed (Bitmap.wellFormed_blank dst.size dst.palette.len_le)
  have size : (dst.convertInto .trueColor32 dst.palette).size = dst.size := shape.size
  have drawn := Rect.clip_again clipped
  rw [← size] at drawn
  have drawn_wf := (Bitmap.sameShape_overlay (dst.convertInto .trueColor32 dst.palette) src c p)
    |>.wellFormed wide_wf
  have fewer : nesting (dst.convertInto .trueColor32 dst.palette) src < bound :=
    Nat.lt_of_le_of_lt (nesting_of_trueColor32 shape.depth) enough
  unfold blitStaged
  rw [convertInto_eq wf dst.palette.len_le]
  simp only [bind, Except.bind, goes _ src wide_wf src_wf fewer, Bitmap.blit_of_trueColor32 drawn shape.depth]
  rw [convertInto_eq drawn_wf wf.palette_fits]
  rfl

theorem blitRecoded_eq (goes : Goes again bound) (wf : dst.WellFormed) (src_wf : src.WellFormed)
    (other : src.depth ≠ dst.depth) (enough : nesting dst src < bound + 1)
    (clipped : Rect.clip src.size dst.size r p = some c)
    (direct : dst.depth = .trueColor32 ∨ dst.canFastCopy src c p = true) :
    blitRecoded again dst src c p = .ok (dst.blit src r p) := by
  unfold blitRecoded
  by_cases wide : dst.depth = .trueColor32
  · have shape := Bitmap.sameShape_convertInto src_wf wf.palette_fits
    have fewer : nesting dst (src.convertInto dst.depth dst.palette) < nesting dst src :=
      nesting_lt_of_converted shape.depth other
    rw [if_pos (by simp [wide]), convertInto_eq src_wf wf.palette_fits,
      ← Bitmap.blit_converted src_wf wf wide other clipped]
    exact goes _ _ wf (shape.wellFormed (Bitmap.wellFormed_blank _ wf.palette_fits)) (by omega) c p
  · have stands := Bitmap.standsFor_recoded wf src_wf (Rect.placed_of_clip clipped)
    have fewer := nesting_lt_of_converted stands.colors.depth other
    have last := goes dst _ wf stands.wellFormed (by omega) (dst.recoded src c).2 p
    rw [Bitmap.blit_of_fast clipped wide (direct.resolve_left wide), if_neg other,
      ← Bitmap.blit_recoded wf src_wf clipped, ← last]
    unfold Bitmap.recoded
    by_cases whole : c = src.bounds
    · rw [if_pos (by simp [whole]), if_pos whole, convertInto_eq src_wf wf.palette_fits]
      rfl
    · -- the region comes from a blit between bitmaps of one depth
      have two : 2 < bound := by
        have := le_nesting_of_indexed (dst.recoded src c).1 wide
        omega
      have region_wf := (Bitmap.sameShape_cloneRegion src_wf c).wellFormed
        (Bitmap.wellFormed_blank _ src_wf.palette_fits)
      rw [if_neg (by simp [whole, wide]), if_neg whole, cloneRegion_eq goes two src_wf]
      simp only [bind, Except.bind]
      rw [convertInto_eq region_wf wf.palette_fits]

/-- One blit is not stopped if those are not that it leads to. -/
theorem blitOnce_eq (goes : Goes again bound) (wf : dst.WellFormed) (src_wf : src.WellFormed)
    (enough : nesting dst src < bound + 1) (r : Rect) (p : Vec2) :
    blitOnce again dst src r p = .ok (dst.blit src r p) := by
  unfold blitOnce
  cases clipped : Rect.clip src.size dst.size r p with
  | none =>
    rw [Bitmap.blit_of_clip_none clipped]
    rfl
  | some c =>
    have placed := Rect.placed_of_clip clipped
    dsimp only
    by_cases direct : dst.depth = .trueColor32 ∨ dst.canFastCopy src c p = true
    · rw [if_neg (by rcases direct with wide | fast <;> simp [*])]
      by_cases same : src.depth = dst.depth
      · rw [if_neg (by simp [same])]
        by_cases wide : dst.depth = .trueColor32
        · rw [Bitmap.blit_of_trueColor32 clipped wide, Bitmap.overlay, if_pos (same.trans wide)]
          exact copyRows_eq wf src_wf (.of_trueColor32 placed wide (same.trans wide))
        · have fast := direct.resolve_left wide
          rw [Bitmap.blit_of_fast clipped wide fast, if_pos same]
          exact copyRows_eq wf src_wf (Bitmap.fits_of_fast placed same fast).1
      · rw [if_pos (by simp [same])]
        exact blitRecoded_eq goes wf src_wf same enough clipped direct
    · obtain ⟨narrow, slow⟩ := not_or.mp direct
      have two := le_nesting_of_indexed src narrow
      rw [if_pos (by simp [narrow, slow]), Bitmap.blit_of_not_fast clipped narrow slow]
      exact blitStaged_eq goes (by omega) wf src_wf clipped

/-- No blit is stopped that may have as many blits inside each other as it leads to. -/
theorem goes_blit (depth : Nat) : Goes (blit depth) depth := by
  induction depth with
  | zero => exact fun dst src _ _ none => absurd none (Nat.not_lt_zero _)
  | succ depth ih => exact fun dst src wf src_wf enough r p => blitOnce_eq ih wf src_wf enough r p

/-! ## The other copies -/

theorem blitWithin_eq (goes : Goes again bound) (enough : 2 < bound) (wf : b.WellFormed) (r : Rect)
    (p : Vec2) : blitWithin again b r p = .ok (b.blitWithin r p) := by
  unfold blitWithin Bitmap.blitWithin
  cases clipped : Rect.clip b.size b.size r p with
  | none => rfl
  | some c =>
    have placed := Rect.placed_of_clip clipped
    dsimp only
    by_cases mono : b.depth = .mono1
    · have shape := Bitmap.sameShape_cloneRegion wf c
      have region_wf := shape.wellFormed (Bitmap.wellFormed_blank _ wf.palette_fits)
      have fewer : nesting b (b.cloneRegion c) ≤ 2 := nesting_of_depth_eq shape.depth
      rw [if_pos mono, if_pos mono, cloneRegion_eq goes enough wf]
      exact goes b _ wf region_wf (by omega) _ p
    · rw [if_neg mono, if_neg mono]
      exact moveRows_eq wf placed mono

/-- A position that is moved inside an extent is one of words. -/
theorem offset_eq {limit : Vec2} {x y : Nat} (hx : p.x.toNat + x < limit.x.toNat)
    (hy : p.y.toNat + y < limit.y.toNat) : offset p x y = .ok (Surface.offset p x y) := by
  have width := limit.x.toNat_lt
  have height := limit.y.toNat_lt
  have moved : (⟨(p.x.toNat + x).toUInt16, (p.y.toNat + y).toUInt16⟩ : Vec2) = Surface.offset p x y := by
    obtain ⟨column, row⟩ := Bitmap.toNat_offset hx hy
    apply Vec2.ext_toNat
    · rw [column, Vec2.toNat_toUInt16 (by omega)]
    · rw [row, Vec2.toNat_toUInt16 (by omega)]
  rw [offset, word, word, if_pos (by omega), if_pos (by omega), ← moved]
  rfl

theorem surfaceBlit_eq (wf : dst.WellFormed) (src_wf : src.WellFormed) (r : Rect) (p : Vec2) :
    surfaceBlit dst src r p = .ok (Surface.blit dst src r p) := by
  unfold surfaceBlit
  cases clipped : Rect.clip src.size dst.size r p with
  | none =>
    rw [Bitmap.surface_blit_of_clip_none clipped]
    rfl
  | some c =>
    have placed := Rect.placed_of_clip clipped
    rw [Bitmap.surface_blit_eq clipped]
    refine scan_eq (Bitmap.SameShape · dst) ?_ ?_ (Bitmap.SameShape.refl dst)
    · intro x hx y hy s hs
      have source_column : c.origin.x.toNat + x < src.size.x.toNat := by
        have := placed.source_x
        omega
      have source_row : c.origin.y.toNat + y < src.size.y.toNat := by
        have := placed.source_y
        omega
      have column : p.x.toNat + x < dst.size.x.toNat := by
        have := placed.target_x
        omega
      have row : p.y.toNat + y < dst.size.y.toNat := by
        have := placed.target_y
        omega
      rw [offset_eq source_column source_row]
      simp only [bind, Except.bind, colorAt_eq src_wf, Bitmap.colorAt_offset placed hx hy]
      rw [offset_eq column row]
      exact setColor_eq (hs.wellFormed wf) _ _
    · exact fun x _ y _ s hs => (Bitmap.sameShape_setColor s _ _).trans hs

/-- Every copy between well-formed bitmaps ends, after at most four blits inside each other: a blit,
a region, a move inside one bitmap and a copy pixel by pixel. On the way every address and every
slice lies in its buffer, both ends of every row have one length, no coordinate exceeds its word,
and what is left is what the plain copy leaves. -/
theorem copies_total {depth : Nat} (deep : 4 ≤ depth) (wf : dst.WellFormed) (src_wf : src.WellFormed)
    (r : Rect) (p : Vec2) :
    blit depth dst src r p = .ok (dst.blit src r p) ∧
      cloneRegion (blit depth) src r = .ok (src.cloneRegion r) ∧
      blitWithin (blit depth) dst r p = .ok (dst.blitWithin r p) ∧
      surfaceBlit dst src r p = .ok (Surface.blit dst src r p) := by
  have goes := goes_blit depth
  have enough := Nat.lt_of_le_of_lt (nesting_le dst src) deep
  refine ⟨goes dst src wf src_wf enough r p, ?_, ?_, surfaceBlit_eq wf src_wf r p⟩
  · exact cloneRegion_eq goes (by omega) src_wf r
  · exact blitWithin_eq goes (by omega) wf r p

end

/-- Five columns of an indexed bitmap onto single bits with the same palette: the region of five
columns does not fill its byte, so that the fourth blit is reached, and three are not enough. -/
theorem copies_total_five_columns :
    let dst := Bitmap.blank ⟨9, 2⟩ .mono1 Palette.monochrome
    let src := (Bitmap.blank ⟨9, 2⟩ .indexed8 Palette.monochrome).setColor ⟨4, 1⟩ .white
    let r := Rect.ofParts 0 0 5 5
    dst.WellFormed ∧ src.WellFormed ∧
      blit 4 dst src r ⟨0, 0⟩ = .ok (dst.blit src r ⟨0, 0⟩) ∧
      (dst.blit src r ⟨0, 0⟩).pixels = #[0, 0, 0, 0, 0x08, 0, 0, 0] ∧
      blit 3 dst src r ⟨0, 0⟩ = .error .nested := by
  intro dst src r
  have wf : dst.WellFormed := Bitmap.wellFormed_blank _ (by decide)
  have src_wf : src.WellFormed := ⟨by decide +kernel, by decide⟩
  obtain ⟨copied, -, -, -⟩ := copies_total (Nat.le_refl 4) wf src_wf r ⟨0, 0⟩
  exact ⟨wf, src_wf, copied, by decide +kernel, by decide +kernel⟩

/-- A buffer that is shorter than its bitmap stops the run. -/
example : let short : Bitmap := ⟨⟨4, 2⟩, .indexed8, #[0, 0, 0, 0], Palette.empty⟩
    blit 4 short short short.bounds ⟨0, 0⟩ = .error (.slice 4 4 4) := by
  decide +kernel

end Guarded

end TileEngine
