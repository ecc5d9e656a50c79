import TileEngine.Proofs.Bitmap.Store
import TileEngine.Proofs.Palette.Nearest

/-!
Colours and stored values. `decode` says which colour a stored value shows, and
`encode` what a pixel stores when it is given a colour: the colour itself, or its
nearest palette entry. A conversion stores, pixel by pixel, the encoding of the
colour that the source shows, whichever of the four routes it takes.
-/

namespace TileEngine

namespace Bitmap

/-- The colour that a stored value shows. -/
def decode (b : Bitmap) : UInt8 ⊕ Color → Color
  | .inl i => b.effectivePalette.shown i.toNat
  | .inr c => c

/-- What a pixel stores that is given a colour. -/
def encode (b : Bitmap) (c : Color) : UInt8 ⊕ Color :=
  if b.depth.isIndexed then .inl (b.effectivePalette.nearestIndex c) else .inr c

/-- The colour at a column and a row inside the bitmap. -/
def shownAt (b : Bitmap) (x y : Nat) : Color := b.decode (b.stored x y)

/-- No pixel stores an index outside the effective palette. -/
def IndexesInPalette (b : Bitmap) : Prop :=
  ∀ p i, b.getIndex p = some i → i.toNat < b.effectivePalette.len

theorem shownAt_indexed {b : Bitmap} (indexed : b.depth.isIndexed) (x y : Nat) :
    b.shownAt x y = b.effectivePalette.shown (b.readIndex x y).toNat := by
  rw [shownAt, stored, if_pos indexed, decode]

theorem shownAt_trueColor32 {b : Bitmap} (depth : b.depth = .trueColor32) (x y : Nat) :
    b.shownAt x y = b.readTexel x y := by
  rw [shownAt, stored_trueColor32 depth, decode]

theorem isIndexed_eq_false_iff {depth : Depth} : depth.isIndexed = false ↔ depth = .trueColor32 := by
  cases depth <;> simp [Depth.isIndexed]

theorem trueColor32_of_not_indexed {depth : Depth} (indexed : ¬depth.isIndexed = true) :
    depth = .trueColor32 :=
  isIndexed_eq_false_iff.mp (by simpa using indexed)

theorem colorAt_eq (b : Bitmap) (p : Vec2) :
    b.colorAt p = if p.inside b.size then some (b.shownAt p.x.toNat p.y.toNat) else none := by
  unfold colorAt shownAt stored
  by_cases inside : p.inside b.size = true
  · cases depth : b.depth <;> simp [inside, Depth.isIndexed, decode]
  · simp [inside]

theorem encode_trueColor32 {b : Bitmap} (depth : b.depth = .trueColor32) (c : Color) :
    b.encode c = .inr c := by
  rw [encode, if_neg (by rw [depth]; decide)]

theorem encode_indexed {b : Bitmap} (indexed : b.depth.isIndexed) (c : Color) :
    b.encode c = .inl (b.effectivePalette.nearestIndex c) := by
  rw [encode, if_pos indexed]

theorem SameShape.decode {a b : Bitmap} (h : SameShape a b) : a.decode = b.decode := by
  funext v
  cases v <;> simp only [Bitmap.decode, h.effectivePalette]

theorem SameShape.encode {a b : Bitmap} (h : SameShape a b) : a.encode = b.encode := by
  funext c
  rw [Bitmap.encode, Bitmap.encode, h.depth, h.effectivePalette]

theorem effectivePalette_fits {b : Bitmap} (wf : b.WellFormed) :
    b.effectivePalette.len ≤ b.depth.maxPalette := by
  unfold effectivePalette
  split
  · rename_i mono
    simp only [Bool.and_eq_true, beq_iff_eq] at mono
    rw [mono.1]
    decide
  · exact wf.palette_fits

/-- The nearest entry of a palette that a depth can address survives being stored. -/
theorem kept_nearestIndex {b : Bitmap} (wf : b.WellFormed) (c : Color) :
    b.depth.kept (b.effectivePalette.nearestIndex c) = b.effectivePalette.nearestIndex c := by
  unfold Depth.kept
  split
  · rename_i mono
    have fits := effectivePalette_fits wf
    rw [mono, Depth.maxPalette] at fits
    have small : b.effectivePalette.nearest c < 2 := by
      rcases Nat.eq_zero_or_pos b.effectivePalette.len with zero | nonempty
      · rw [Palette.nearest_of_empty zero]
        decide
      · have := Palette.nearest_lt c nonempty
        omega
    rw [Palette.nearestIndex]
    generalize b.effectivePalette.nearest c = i at small
    interval_cases i <;> rfl
  · rfl

/-- A scan of writes that reaches every pixel of a bitmap. -/
theorem stored_scan {out : Bitmap} (update : Nat → Nat → Bitmap → Bitmap)
    (value : Nat → Nat → UInt8 ⊕ Color) (shape : ∀ x y s, SameShape (update x y s) s)
    (writes : ∀ x < out.size.x.toNat, ∀ y < out.size.y.toNat, ∀ s, SameShape s out →
      ∀ x' < out.size.x.toNat, ∀ y', (update x y s).stored x' y' =
        if x' = x ∧ y' = y then value x y else s.stored x' y') :
    SameShape (scan out.size update out) out ∧
      ∀ x < out.size.x.toNat, ∀ y < out.size.y.toNat,
        (scan out.size update out).stored x y = value x y := by
  refine ⟨?_, ?_⟩
  · exact scan_keeps (SameShape · out) (fun x _ y _ s hs => (shape x y s).trans hs) (SameShape.refl out)
  · intro x hx y hy
    refine (scan_read (fun s : Bitmap => s.stored x y) (SameShape · out)
      (fun i j => x = i ∧ y = j) (value x y) ?_ ?_ ?_ (SameShape.refl out)).1
      ⟨x, hx, y, hy, rfl, rfl⟩
    · exact fun i _ j _ s hs => (shape i j s).trans hs
    · intro i hi j hj s hs own
      rw [writes i hi j hj s hs x hx y, if_pos own, own.1, own.2]
    · intro i hi j hj s hs other
      rw [writes i hi j hj s hs x hx y, if_neg other]

theorem getD_remapTable (source target : Palette) (i : UInt8) :
    (source.remapTable target).getD i.toNat 0 = target.nearestIndex (source.shown i.toNat) := by
  have bound := i.toNat_lt
  simp [Palette.remapTable, bound]

theorem scan_indexes {out : Bitmap} (wf : out.WellFormed) (indexed : out.depth.isIndexed)
    (index : Nat → Nat → UInt8) :
    SameShape (scan out.size (fun x y s => s.writeIndex x y (index x y)) out) out ∧
      ∀ x < out.size.x.toNat, ∀ y < out.size.y.toNat,
        (scan out.size (fun x y s => s.writeIndex x y (index x y)) out).stored x y =
          .inl (out.depth.kept (index x y)) := by
  refine stored_scan _ _ (fun x y s => sameShape_writeIndex s x y _) ?_
  intro x hx y hy s hs x' hx' y'
  rw [← hs.size] at hx hy hx'
  rw [← hs.depth] at indexed ⊢
  exact stored_writeIndex (hs.wellFormed wf) indexed hx hy _ hx'

theorem scan_texels {out : Bitmap} (wf : out.WellFormed) (depth : out.depth = .trueColor32)
    (color : Nat → Nat → Color) :
    SameShape (scan out.size (fun x y s => s.writeTexel x y (color x y)) out) out ∧
      ∀ x < out.size.x.toNat, ∀ y < out.size.y.toNat,
        (scan out.size (fun x y s => s.writeTexel x y (color x y)) out).stored x y =
          .inr (color x y) := by
  refine stored_scan _ _ (fun x y s => sameShape_writeTexel s x y _) ?_
  intro x hx y hy s hs x' hx' y'
  rw [← hs.size] at hx hy hx'
  exact stored_writeTexel (hs.wellFormed wf) (hs.depth.trans depth) hx hy _ hx'

/-- What is kept for a colour is its nearest entry. -/
def Recalls (target : Palette) (found : List (Color × UInt8)) : Prop :=
  ∀ color index, found.lookup color = some index → index = target.nearestIndex color

theorem quantize_eq {b out : Bitmap} {target : Palette} {found : List (Color × UInt8)}
    (recalls : Recalls target found) (x y : Nat) :
    (b.quantize target x y (out, found)).1 =
        out.writeIndex x y (target.nearestIndex (b.readTexel x y)) ∧
      Recalls target (b.quantize target x y (out, found)).2 := by
  unfold quantize
  dsimp only
  split
  · rename_i index known
    exact ⟨by rw [recalls _ _ known], recalls⟩
  · refine ⟨rfl, fun color index known => ?_⟩
    rw [List.lookup_cons] at known
    split at known
    · rename_i same
      rw [eq_of_beq same]
      exact (Option.some.inj known).symm
    · exact recalls color index known

/-- Keeping the entries that were found does not change the result. -/
theorem scan_quantize (b out : Bitmap) (target : Palette) :
    (scan b.size (b.quantize target) (out, [])).1 =
      scan b.size (fun x y out => out.writeIndex x y (target.nearestIndex (b.readTexel x y))) out := by
  refine (scan_related (fun (s : Bitmap × List (Color × UInt8)) t => s.1 = t ∧ Recalls target s.2)
    ?_ ⟨rfl, ?_⟩).1
  · rintro x - y - ⟨s, found⟩ t ⟨rfl, recalls⟩
    exact quantize_eq recalls x y
  · intro color index known
    contradiction

/-- A conversion has the extent of its source, and depth and palette as asked. -/
theorem sameShape_convertInto {b : Bitmap} (wf : b.WellFormed) {depth : Depth} {palette : Palette}
    (fits : palette.len ≤ depth.maxPalette) :
    SameShape (b.convertInto depth palette) (blank b.size depth palette) := by
  have blank_wf := wellFormed_blank b.size fits
  unfold convertInto
  cases source : b.depth.isIndexed <;> cases target : depth.isIndexed
  · refine SameShape.of_pixels _ ?_
    rw [wf.bytes, blank_wf.bytes, stride, stride, isIndexed_eq_false_iff.mp source]
    rw [isIndexed_eq_false_iff] at target
    subst target
    rfl
  · dsimp only
    rw [scan_quantize]
    exact (scan_indexes blank_wf target _).1
  · exact (scan_texels blank_wf (isIndexed_eq_false_iff.mp target) _).1
  · exact (scan_indexes blank_wf target _).1

/-- A conversion stores for every pixel the encoding of the colour that the source
shows there. -/
theorem stored_convertInto {b : Bitmap} {depth : Depth} {palette : Palette}
    (fits : palette.len ≤ depth.maxPalette) {x y : Nat} (hx : x < b.size.x.toNat)
    (hy : y < b.size.y.toNat) :
    (b.convertInto depth palette).stored x y =
      (blank b.size depth palette).encode (b.shownAt x y) := by
  have blank_wf := wellFormed_blank b.size fits
  have kept := kept_nearestIndex blank_wf
  unfold convertInto
  cases source : b.depth.isIndexed <;> cases target : depth.isIndexed
  · have source_depth := isIndexed_eq_false_iff.mp source
    have target_depth := isIndexed_eq_false_iff.mp target
    rw [encode_trueColor32 target_depth, shownAt_trueColor32 source_depth,
      stored_trueColor32 target_depth, readTexel, readTexel, stride, stride]
    simp only [blank, source_depth, target_depth]
  · have source_depth := isIndexed_eq_false_iff.mp source
    dsimp only
    rw [scan_quantize, encode_indexed target, shownAt_trueColor32 source_depth]
    exact ((scan_indexes blank_wf target _).2 x hx y hy).trans (by rw [kept])
  · rw [encode_trueColor32 (isIndexed_eq_false_iff.mp target), shownAt_indexed source]
    exact (scan_texels blank_wf (isIndexed_eq_false_iff.mp target) _).2 x hx y hy
  · rw [encode_indexed target, shownAt_indexed source]
    exact ((scan_indexes blank_wf target _).2 x hx y hy).trans (by rw [getD_remapTable, kept])

end Bitmap

end TileEngine
