import TileEngine.Proofs.Bitmap.Blit
import TileEngine.Proofs.Bitmap.Converted

/-!
Conversions with an automatic palette that lose no colour. The palette of an indexed bitmap
goes through true colour with it, and a single-bit bitmap without a palette comes back with black
and white. A true-colour bitmap without a palette is given its own colours in the order in which
a scan row by row meets them, up to the capacity of a palette.
-/

namespace TileEngine

namespace Palette

variable {p : Palette}

/-- A palette with room takes a colour as its last entry. -/
theorem push_of_room (room : p.len < capacity) (c : Color) :
    ∃ grown, p.push c = .ok (grown, p.len) ∧ grown.active = p.active ++ [c] := by
  refine ⟨⟨p.cells.set p.len c room, p.len + 1, room⟩, ?_, ?_⟩
  · have next : p.len + 1 ≤ capacity := room
    simp [push, resize, set, next, bind, Except.bind, pure, Except.pure]
  · have cell : p.len < p.cells.toList.length := by simpa using room
    rw [active, active, Vector.toList_set, List.take_add_one, List.take_set_of_le (Nat.le_refl _),
      List.getElem?_set_self cell, Option.toList_some]

theorem push_of_full (full : capacity ≤ p.len) (c : Color) :
    p.push c = .error (.tooManyColors (p.len + 1) capacity) := by
  have none : ¬p.len + 1 ≤ capacity := by omega
  simp [push, resize, none, bind, Except.bind]

theorem mem_active_iff {c : Color} : c ∈ p.active ↔ ∃ i < p.len, p.shown i = c := by
  rw [List.mem_iff_getElem?]
  constructor
  · rintro ⟨i, entry⟩
    have inside := (List.getElem?_eq_some_iff.mp entry).1
    rw [length_active] at inside
    exact ⟨i, inside, shown_of_getElem? entry⟩
  · rintro ⟨i, inside, shows⟩
    rw [← length_active] at inside
    have entry := List.getElem?_eq_getElem inside
    rw [← shows, shown_of_getElem? entry]
    exact ⟨i, entry⟩

end Palette

namespace Bitmap

variable {b : Bitmap} {p : Palette} {seen : List Color} {c : Color}

/-! ## Colours in the order of their first appearance -/

/-- A full palette stays as it is, so a scan that ends there would miss nothing. -/
theorem collect_of_full (full : Palette.capacity ≤ p.len) (c : Color) : collect p c = p := by
  unfold collect
  split
  · rfl
  · rw [Palette.push_of_full full]

theorem active_collect (p : Palette) (c : Color) :
    (collect p c).active =
      if c ∈ p.active then p.active else (p.active ++ [c]).take Palette.capacity := by
  have bound := p.len_le
  have length := Palette.length_active p
  rcases Nat.lt_or_ge p.len Palette.capacity with room | full
  · simp only [collect, List.contains_iff_mem]
    split
    · rfl
    · obtain ⟨grown, pushed, active⟩ := Palette.push_of_room room c
      rw [pushed, List.take_of_length_le (by rw [List.length_append, length]; exact room)]
      exact active
  · rw [collect_of_full full, List.take_append_of_le_length (by omega),
      List.take_of_length_le (by omega), ite_self]

/-- A palette of the first different colours seen stays one when the next colour is collected. -/
theorem collect_next (first : p.active = seen.eraseDups.take Palette.capacity) (c : Color) :
    (collect p c).active = (seen ++ [c]).eraseDups.take Palette.capacity := by
  rw [active_collect, first, List.eraseDups_append]
  by_cases known : c ∈ seen
  · have nothing : [c].removeAll seen = [] := by simp [List.removeAll, known]
    rw [nothing, List.eraseDups_nil, List.append_nil]
    split
    · rfl
    · -- the colour was seen when there was no room any more
      rename_i missing
      have full : Palette.capacity ≤ seen.eraseDups.length := by
        by_contra room
        rw [List.take_of_length_le (by omega), List.mem_eraseDups] at missing
        exact missing known
      rw [List.take_append_of_le_length (by simpa using full), List.take_take, Nat.min_self]
  · have new : [c].removeAll seen = [c] := by simp [List.removeAll, known]
    have absent : c ∉ seen.eraseDups.take Palette.capacity := by
      intro member
      exact known (List.mem_eraseDups.mp (List.mem_of_mem_take member))
    have alone : [c].eraseDups = [c] := rfl
    rw [new, if_neg absent, alone]
    rcases Nat.le_total seen.eraseDups.length Palette.capacity with room | full
    · rw [List.take_of_length_le room]
    · rw [List.take_append_of_le_length (by simpa using full), List.take_append_of_le_length full,
        List.take_take, Nat.min_self]

/-- So after a run the palette has the first different colours that there were, up to its
capacity. -/
theorem collect_all (colors : List Color)
    (first : p.active = seen.eraseDups.take Palette.capacity) :
    (colors.foldl collect p).active = (seen ++ colors).eraseDups.take Palette.capacity := by
  induction colors generalizing p seen with
  | nil => simpa using first
  | cons color rest ih =>
    rw [List.foldl_cons, ih (collect_next first color), List.append_assoc, List.singleton_append]

/-- The colours that the pixels show, row by row. -/
def shownColors (b : Bitmap) : List Color :=
  (List.range b.size.y.toNat).flatMap fun y =>
    (List.range b.size.x.toNat).map fun x => b.shownAt x y

theorem mem_shownColors : c ∈ b.shownColors ↔ ∃ q, b.colorAt q = some c := by
  simp only [shownColors, List.mem_flatMap, List.mem_map, List.mem_range]
  constructor
  · rintro ⟨y, hy, x, hx, shows⟩
    refine ⟨Vec2.ofNats x y, ?_⟩
    rw [colorAt_eq, if_pos (Vec2.inside_ofNats hx hy), Vec2.toNat_ofNats_x hx,
      Vec2.toNat_ofNats_y hy, shows]
  · rintro ⟨q, shows⟩
    rw [colorAt_eq] at shows
    split at shows
    · rename_i inside
      obtain ⟨hx, hy⟩ := Vec2.inside_iff.mp inside
      exact ⟨_, hy, _, hx, Option.some.inj shows⟩
    · contradiction

theorem active_distinctColors (depth : b.depth = .trueColor32) :
    b.distinctColors.active = b.shownColors.eraseDups.take Palette.capacity := by
  have start : Palette.empty.active = ([] : List Color).eraseDups.take Palette.capacity := rfl
  have scanned : b.distinctColors = b.shownColors.foldl collect Palette.empty := by
    simp only [distinctColors, scan, shownColors, List.foldl_flatMap, List.foldl_map,
      shownAt_trueColor32 depth]
  rw [scanned, collect_all _ start, List.nil_append]

/-! ## Round trips -/

theorem convert?_of_ne {depth : Depth} (other : depth ≠ b.depth) :
    b.convert? depth = some (b.convertInto depth (b.paletteFor depth)) := by
  rw [convert?, if_neg other]

/-- A colour of the palette is reproduced. -/
theorem reproduces_of_mem (member : c ∈ b.effectivePalette.active) : b.Reproduces c := by
  obtain ⟨i, inside, rfl⟩ := Palette.mem_active_iff.mp member
  exact reproduces_shown inside

/-- A conversion keeps the colours that its depth and palette reproduce. -/
theorem colorAt_convertInto_of_reproduces {depth : Depth} {palette : Palette} {q : Vec2}
    (wf : b.WellFormed) (fits : palette.len ≤ depth.maxPalette)
    (keeps : ∀ c, b.colorAt q = some c → (blank b.size depth palette).Reproduces c) :
    (b.convertInto depth palette).colorAt q = b.colorAt q := by
  rw [colorAt_convertInto wf fits]
  cases shows : b.colorAt q with
  | none => rfl
  | some c => exact congrArg some (keeps c shows)

/-- Back in its depth, a bitmap that went through true colour has its effective palette again. -/
theorem effectivePalette_back {wide : Bitmap} (wf : b.WellFormed) (indexed : b.depth.isIndexed)
    (depth : wide.depth = .trueColor32) (palette : wide.palette = b.palette)
    (nonempty : 0 < b.effectivePalette.len) (size : Vec2) :
    (blank size b.depth (wide.paletteFor b.depth)).effectivePalette = b.effectivePalette := by
  have fits := wf.palette_fits
  have current : wide.effectivePalette = b.palette := by
    simp [effectivePalette, depth, palette]
  cases own : b.depth with
  | mono1 =>
    by_cases empty : b.palette.isEmpty = true
    · have chosen : wide.paletteFor .mono1 = Palette.monochrome := by
        simp [paletteFor, current, empty]
      rw [chosen]
      simp [effectivePalette, blank, own, empty]
    · have small : ¬2 < b.palette.len := by
        rw [own, Depth.maxPalette] at fits
        omega
      have chosen : wide.paletteFor .mono1 = b.palette := by
        simp [paletteFor, current, empty, small]
      rw [chosen]
      simp [effectivePalette, blank, own]
  | indexed8 =>
    have same : b.effectivePalette = b.palette := by simp [effectivePalette, own]
    have filled : b.palette.isEmpty = false := by
      rw [same] at nonempty
      simp only [Palette.isEmpty, beq_eq_false_iff_ne]
      omega
    have chosen : wide.paletteFor .indexed8 = b.palette := by
      simp [paletteFor, current, filled]
    rw [chosen, same]
    simp [effectivePalette, blank]
  | trueColor32 =>
    rw [own] at indexed
    contradiction

/-- An indexed bitmap whose indices are inside its palette shows the same colours after it went
through true colour. -/
theorem colorAt_back (wf : b.WellFormed) (indexed : b.depth.isIndexed)
    (indexes : b.IndexesInPalette) (q : Vec2) :
    let wide := b.convertInto .trueColor32 b.palette
    (wide.convertInto b.depth (wide.paletteFor b.depth)).colorAt q = b.colorAt q := by
  intro wide
  have shape : SameShape wide _ := sameShape_convert_trueColor32 wf b.palette
  have wide_wf := shape.wellFormed (wellFormed_blank b.size b.palette.len_le)
  have shown : wide.colorAt q = b.colorAt q := colorAt_convert_trueColor32 wf b.palette q
  rw [← shown]
  apply colorAt_convertInto_of_reproduces wide_wf (len_paletteFor_le wide b.depth)
  intro c shows
  rw [shown, colorAt_eq] at shows
  split at shows
  · rename_i inside
    obtain ⟨hx, hy⟩ := Vec2.inside_iff.mp inside
    have nonempty := indexes.nonempty indexed hx hy
    have same : SameColors (blank wide.size b.depth (wide.paletteFor b.depth)) b :=
      ⟨rfl, by rw [effectivePalette_back wf indexed shape.depth shape.palette nonempty]⟩
    rw [← Option.some.inj shows, Reproduces, same.decode, same.encode]
    exact IndexesInPalette.reproduces (fun _ => indexes) hx hy
  · contradiction

theorem paletteFor_indexed8 (depth : b.depth = .trueColor32) (bare : b.palette.isEmpty) :
    b.paletteFor .indexed8 = b.distinctColors := by
  simp [paletteFor, effectivePalette, depth, bare]

/-- With a place for each of its colours a true-colour bitmap keeps all of them. -/
theorem colorAt_convert_indexed8 (wf : b.WellFormed) (depth : b.depth = .trueColor32)
    (few : b.shownColors.eraseDups.length ≤ Palette.capacity) (q : Vec2) :
    (b.convertInto .indexed8 b.distinctColors).colorAt q = b.colorAt q := by
  apply colorAt_convertInto_of_reproduces wf b.distinctColors.len_le
  intro c shows
  apply reproduces_of_mem
  change c ∈ b.distinctColors.active
  rw [active_distinctColors depth, List.take_of_length_le few, List.mem_eraseDups]
  exact mem_shownColors.mpr ⟨q, shows⟩

/-- No colour is lost by an automatic conversion to true colour and back, when no index is outside
the palette. A true-colour bitmap without a palette is given its different colours in the order
of the scan, the first 256 of them if there are more; if there are not, then it shows all its
colours again when it is back in true colour. -/
theorem convert_round_trip (wf : b.WellFormed) :
    (b.depth.isIndexed → b.IndexesInPalette → ∃ wide back, b.convert? .trueColor32 = some wide ∧
      wide.convert? b.depth = some back ∧ ∀ q, back.colorAt q = b.colorAt q) ∧
    (b.depth = .trueColor32 → b.palette.isEmpty → ∃ narrow back,
      b.convert? .indexed8 = some narrow ∧ narrow.convert? .trueColor32 = some back ∧
        narrow.palette.active = b.shownColors.eraseDups.take 256 ∧
        (b.shownColors.eraseDups.length ≤ 256 →
          narrow.palette.active = b.shownColors.eraseDups ∧ ∀ q, back.colorAt q = b.colorAt q)) := by
  refine ⟨?_, ?_⟩
  · intro indexed indexes
    have wide : (b.convertInto .trueColor32 b.palette).depth = .trueColor32 :=
      (sameShape_convert_trueColor32 wf b.palette).depth
    have narrow : b.depth ≠ .trueColor32 := by
      intro equal
      rw [equal] at indexed
      contradiction
    refine ⟨_, _, convert?_of_ne narrow.symm, convert?_of_ne ?_, colorAt_back wf indexed indexes⟩
    rw [paletteFor, wide]
    exact narrow
  · intro depth bare
    have other : Depth.indexed8 ≠ b.depth := by simp [depth]
    have fits : b.distinctColors.len ≤ Depth.indexed8.maxPalette := b.distinctColors.len_le
    have shape := sameShape_convertInto wf fits
    have narrow_wf := shape.wellFormed (wellFormed_blank b.size b.distinctColors.len_le)
    have converted := convert?_of_ne other
    rw [paletteFor_indexed8 depth bare] at converted
    have active : (b.convertInto .indexed8 b.distinctColors).palette.active =
        b.shownColors.eraseDups.take 256 := by
      rw [shape.palette]
      exact active_distinctColors depth
    refine ⟨_, _, converted, convert?_of_ne (by simp [shape.depth, blank]), active, ?_⟩
    intro few
    refine ⟨by rw [active, List.take_of_length_le few], fun q => ?_⟩
    rw [colorAt_convert_trueColor32 narrow_wf]
    exact colorAt_convert_indexed8 wf depth few q

/-- A single-bit bitmap with a white entry, and a true-colour one with red twice. -/
theorem convert_round_trip_white_red :
    let white : Palette := ⟨Palette.writeFrom Palette.empty.cells 0 [.white], 1, by decide⟩
    let red : Color := ⟨255, 0, 0⟩
    let sheet := blank ⟨9, 1⟩ .mono1 white
    let dots := (blank ⟨3, 1⟩ .trueColor32 Palette.empty).edits
      [.setColor ⟨0, 0⟩ red, .setColor ⟨2, 0⟩ red]
    sheet.WellFormed ∧ sheet.IndexesInPalette ∧ dots.WellFormed ∧
      (∃ wide back, sheet.convert? .trueColor32 = some wide ∧ wide.convert? .mono1 = some back ∧
        back.colorAt ⟨8, 0⟩ = some .white) ∧
      ∃ narrow back, dots.convert? .indexed8 = some narrow ∧
        narrow.convert? .trueColor32 = some back ∧ narrow.palette.active = [red, .black] ∧
        back.colorAt ⟨2, 0⟩ = some red := by
  intro white red sheet dots
  have sheet_wf : sheet.WellFormed := wellFormed_blank _ (by decide)
  have dots_wf : dots.WellFormed := ((reachable_blank _ (by decide)).edits _ (by simp)).wellFormed
  have indexes : sheet.IndexesInPalette := indexesInPalette_blank (by decide)
  have colors : dots.shownColors.eraseDups = [red, .black] := by decide +kernel
  refine ⟨sheet_wf, indexes, dots_wf, ?_, ?_⟩
  · obtain ⟨wide, back, out, again, same⟩ := (convert_round_trip sheet_wf).1 rfl indexes
    refine ⟨wide, back, out, again, ?_⟩
    rw [same]
    decide +kernel
  · obtain ⟨narrow, back, out, again, -, few⟩ :=
      (convert_round_trip dots_wf).2 (by decide +kernel) (by decide +kernel)
    obtain ⟨active, same⟩ := few (by rw [colors]; decide)
    refine ⟨narrow, back, out, again, active.trans colors, ?_⟩
    rw [same]
    decide +kernel

end Bitmap

end TileEngine
