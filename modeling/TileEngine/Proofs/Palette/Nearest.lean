import TileEngine.Palette
import Mathlib.Tactic.Common
import Mathlib.Tactic.Linarith

/-!
The search for the nearest colour finds the first of the active entries with the
least squared distance. An exact match ends the search early; because no other
entry before it has distance zero, this never changes the answer.
-/

namespace TileEngine

namespace Color

theorem channelGap_eq_zero_iff {a b : UInt8} : channelGap a b = 0 ↔ a = b := by
  unfold channelGap
  rw [← UInt8.toNat_inj]
  omega

/-- The distance tells colours apart. -/
theorem distanceSquared_eq_zero_iff {a b : Color} : a.distanceSquared b = 0 ↔ a = b := by
  constructor
  · intro zero
    have red := mul_self_nonneg (channelGap a.red b.red)
    have green := mul_self_nonneg (channelGap a.green b.green)
    have blue := mul_self_nonneg (channelGap a.blue b.blue)
    simp only [distanceSquared, Int.toNat_eq_zero] at zero
    have hr : channelGap a.red b.red = 0 := mul_self_eq_zero.mp (by omega)
    have hg : channelGap a.green b.green = 0 := mul_self_eq_zero.mp (by omega)
    have hb : channelGap a.blue b.blue = 0 := mul_self_eq_zero.mp (by omega)
    rw [channelGap_eq_zero_iff] at hr hg hb
    cases a
    cases b
    simp_all
  · rintro rfl
    simp [distanceSquared, channelGap]

theorem channelGap_bounds (a b : UInt8) : -255 ≤ channelGap a b ∧ channelGap a b ≤ 255 := by
  have ha := a.toNat_lt
  have hb := b.toNat_lt
  unfold channelGap
  omega

theorem channelGap_mul_self_le (a b : UInt8) : channelGap a b * channelGap a b ≤ 65025 := by
  obtain ⟨low, high⟩ := channelGap_bounds a b
  nlinarith

/-- Every distance stays far below the bound that a search starts with. -/
theorem distanceSquared_lt (a b : Color) : a.distanceSquared b < 0xFFFFFFFF := by
  have red := channelGap_mul_self_le a.red b.red
  have green := channelGap_mul_self_le a.green b.green
  have blue := channelGap_mul_self_le a.blue b.blue
  simp only [distanceSquared]
  omega

end Color

namespace Palette

theorem getElem?_active (p : Palette) (i : Nat) : p.active[i]? = p.get? i := by
  simp only [active, get?, List.getElem?_take]
  split
  · rename_i h
    have bound := Nat.lt_of_lt_of_le h p.len_le
    simp [Vector.get, bound]
  · rfl

theorem shown_of_getElem? {p : Palette} {i : Nat} {c : Color} (h : p.active[i]? = some c) :
    p.shown i = c := by
  rw [getElem?_active] at h
  simp [shown, h]

theorem shown_of_len_le {p : Palette} {i : Nat} (past : p.len ≤ i) : p.shown i = .black := by
  simp [shown, get?, Nat.not_lt.mpr past]

theorem length_active (p : Palette) : p.active.length = p.len := by
  simp [active, p.len_le]

/-- Entry `i` is the nearest one to a colour: it is active, no active entry is
nearer, and every entry before it is farther away. -/
structure IsNearest (p : Palette) (target : Color) (i : Nat) : Prop where
  active : i < p.len
  least : ∀ j < p.len, (p.shown i).distanceSquared target ≤ (p.shown j).distanceSquared target
  first : ∀ j < i, (p.shown i).distanceSquared target < (p.shown j).distanceSquared target

/-- What a search that is under way gives back: the position of the first colour
of least distance, when that is below the bound, and else the best one so far. -/
theorem scanNearest_spec (target : Color) (colors : List Color) (index best least : Nat)
    (pos : 0 < least) :
    (∃ i c, colors[i]? = some c ∧ scanNearest target colors index best least = index + i ∧
      c.distanceSquared target < least ∧
      (∀ d ∈ colors, c.distanceSquared target ≤ d.distanceSquared target) ∧
      ∀ d ∈ colors.take i, c.distanceSquared target < d.distanceSquared target) ∨
    (scanNearest target colors index best least = best ∧
      ∀ d ∈ colors, least ≤ d.distanceSquared target) := by
  induction colors generalizing index best least with
  | nil => exact .inr ⟨rfl, by simp⟩
  | cons color rest ih =>
    by_cases equal : color = target
    · have zero := Color.distanceSquared_eq_zero_iff.mpr equal
      exact .inl ⟨0, color, rfl, by simp [scanNearest, equal], by omega, by simp [zero], by simp⟩
    have positive : 0 < color.distanceSquared target :=
      Nat.pos_of_ne_zero fun zero => equal (Color.distanceSquared_eq_zero_iff.mp zero)
    by_cases nearer : color.distanceSquared target < least
    · simp only [scanNearest, equal, nearer, if_true, if_false]
      rcases ih (index + 1) index _ positive with ⟨i, c, hc, scan, below, all, before⟩ | ⟨scan, all⟩
      · refine .inl ⟨i + 1, c, hc, by omega, by omega, ?_, ?_⟩
        · simpa using ⟨Nat.le_of_lt below, all⟩
        · simpa using ⟨below, before⟩
      · exact .inl ⟨0, color, rfl, by omega, nearer, by simpa using all, by simp⟩
    · simp only [scanNearest, equal, nearer, if_false]
      have far := Nat.le_of_not_lt nearer
      rcases ih (index + 1) best least pos with ⟨i, c, hc, scan, below, all, before⟩ | ⟨scan, all⟩
      · refine .inl ⟨i + 1, c, hc, by omega, below, ?_, ?_⟩
        · simpa using ⟨by omega, all⟩
        · simpa using ⟨by omega, before⟩
      · exact .inr ⟨scan, by simpa using ⟨far, all⟩⟩

/-- The search finds the nearest entry of every palette that has one. -/
theorem isNearest_nearest {p : Palette} (target : Color) (nonempty : 0 < p.len) :
    p.IsNearest target (p.nearest target) := by
  have inactive : p.active ≠ [] := by
    rw [← List.length_pos_iff, length_active]
    exact nonempty
  rcases scanNearest_spec target p.active 0 0 0xFFFFFFFF (by decide) with
    ⟨i, c, hc, scan, -, all, before⟩ | ⟨-, far⟩
  · have index : p.nearest target = i := by rw [nearest, scan, Nat.zero_add]
    have shows := shown_of_getElem? hc
    have bound : i < p.active.length := (List.getElem?_eq_some_iff.mp hc).1
    rw [index]
    refine ⟨by rwa [length_active] at bound, ?_, ?_⟩
    · intro j hj
      rw [← length_active] at hj
      rw [shows, shown_of_getElem? (List.getElem?_eq_getElem hj)]
      exact all _ (List.getElem_mem hj)
    · intro j hj
      have entry := List.getElem?_eq_getElem (show j < p.active.length by omega)
      rw [shows, shown_of_getElem? entry]
      refine before _ (List.mem_of_getElem? (i := j) ?_)
      rw [List.getElem?_take_of_lt hj, entry]
  · obtain ⟨d, hd⟩ := List.exists_mem_of_ne_nil _ inactive
    have bound := Color.distanceSquared_lt d target
    have := far d hd
    omega

/-- There is only one nearest entry. -/
theorem IsNearest.unique {p : Palette} {target : Color} {i j : Nat} (hi : p.IsNearest target i)
    (hj : p.IsNearest target j) : i = j := by
  rcases Nat.lt_trichotomy i j with lt | equal | lt
  · have := hj.first i lt
    have := hi.least j hj.active
    omega
  · exact equal
  · have := hi.first j lt
    have := hj.least i hi.active
    omega

/-- A colour that the palette has is matched exactly. -/
theorem IsNearest.shown_of_exact {p : Palette} {target : Color} {i j : Nat}
    (hi : p.IsNearest target i) (hj : j < p.len) (shows : p.shown j = target) :
    p.shown i = target := by
  have zero := Color.distanceSquared_eq_zero_iff.mpr shows
  have := hi.least j hj
  exact Color.distanceSquared_eq_zero_iff.mp (by omega)

theorem nearest_lt {p : Palette} (target : Color) (nonempty : 0 < p.len) :
    p.nearest target < p.len :=
  (isNearest_nearest target nonempty).active

theorem nearest_of_empty {p : Palette} {target : Color} (empty : p.len = 0) :
    p.nearest target = 0 := by
  have none : p.active = [] := List.length_eq_zero_iff.mp (by rw [length_active, empty])
  rw [nearest, none, scanNearest]

/-- The byte of a nearest entry is its position. -/
theorem toNat_nearestIndex (p : Palette) (target : Color) :
    (p.nearestIndex target).toNat = p.nearest target := by
  have small : p.nearest target < 256 := by
    rcases Nat.eq_zero_or_pos p.len with zero | nonempty
    · rw [nearest_of_empty zero]
      decide
    · have := nearest_lt target nonempty
      have := p.len_le
      simp only [capacity] at this
      omega
  simpa [nearestIndex, Nat.toUInt8] using Nat.mod_eq_of_lt small

/-- Every entry before which no other one shows its colour is the nearest to it. -/
theorem isNearest_shown {p : Palette} {i : Nat} (inside : i < p.len)
    (first : ∀ j < i, p.shown j ≠ p.shown i) : p.IsNearest (p.shown i) i := by
  have zero := Color.distanceSquared_eq_zero_iff.mpr (rfl : p.shown i = p.shown i)
  refine ⟨inside, fun j _ => by omega, fun j hj => ?_⟩
  have apart := mt Color.distanceSquared_eq_zero_iff.mp (first j hj)
  omega

/-- Looking for the colour of a nearest entry finds this entry again. -/
theorem nearest_shown_nearest (p : Palette) (target : Color) :
    p.nearest (p.shown (p.nearest target)) = p.nearest target := by
  rcases Nat.eq_zero_or_pos p.len with empty | nonempty
  · rw [nearest_of_empty empty, nearest_of_empty empty]
  · have nearest := isNearest_nearest target nonempty
    refine (isNearest_nearest _ nonempty).unique (isNearest_shown nearest.active fun j hj same => ?_)
    have := nearest.first j hj
    rw [same] at this
    omega

theorem nodup_active_iff {p : Palette} :
    p.active.Nodup ↔ ∀ i j, i < j → j < p.len → p.shown i ≠ p.shown j := by
  have entry (i : Nat) (hi : i < p.active.length) : p.shown i = p.active[i] :=
    shown_of_getElem? (List.getElem?_eq_getElem hi)
  rw [List.Nodup, List.pairwise_iff_getElem]
  constructor
  · intro distinct i j lt hj
    rw [← length_active] at hj
    rw [entry i (by omega), entry j hj]
    exact distinct i j _ hj lt
  · intro distinct i j hi hj lt
    rw [← entry i hi, ← entry j hj]
    exact distinct i j lt (length_active p ▸ hj)

/-- In a palette without repeated colours every entry is the nearest one to itself. -/
theorem nearest_shown_of_nodup {p : Palette} (nodup : p.active.Nodup) {i : Nat} (inside : i < p.len) :
    p.nearest (p.shown i) = i := by
  apply (isNearest_nearest _ (Nat.zero_lt_of_lt inside)).unique
  apply isNearest_shown inside
  intro j hj
  exact nodup_active_iff.mp nodup j i hj inside

/-- Some entry shows another colour than the first one. -/
def Varied (p : Palette) : Prop := ∃ j < p.len, p.shown j ≠ p.shown 0

/-- A search in a palette of one colour ends at its first entry. -/
theorem nearest_of_not_varied {p : Palette} (plain : ¬p.Varied) (target : Color) :
    p.nearest target = 0 := by
  rcases Nat.eq_zero_or_pos p.len with empty | nonempty
  · exact nearest_of_empty empty
  · refine (isNearest_nearest target nonempty).unique ⟨nonempty, fun j hj => ?_, fun j hj => ?_⟩
    · have equal : p.shown j = p.shown 0 := by
        by_contra other
        exact plain ⟨j, hj, other⟩
      rw [equal]
    · exact absurd hj (Nat.not_lt_zero j)

/-! ## Palettes that agree -/

theorem same_iff {p q : Palette} : p.same q = true ↔ p.active = q.active := by
  simp only [same, Bool.and_eq_true, beq_iff_eq]
  constructor
  · exact fun both => both.2
  · intro equal
    exact ⟨by rw [← length_active, equal, length_active], equal⟩

theorem len_eq_of_active {p q : Palette} (equal : p.active = q.active) : p.len = q.len := by
  rw [← length_active, equal, length_active]

theorem shown_eq_of_active {p q : Palette} (equal : p.active = q.active) : p.shown = q.shown := by
  funext i
  rw [shown, shown, ← getElem?_active, ← getElem?_active, equal]

theorem varied_iff_of_active {p q : Palette} (equal : p.active = q.active) : p.Varied ↔ q.Varied := by
  rw [Varied, Varied, len_eq_of_active equal, shown_eq_of_active equal]

theorem nearestIndex_eq_of_active {p q : Palette} (equal : p.active = q.active) :
    p.nearestIndex = q.nearestIndex := by
  funext c
  rw [nearestIndex, nearestIndex, nearest, nearest, equal]

end Palette

end TileEngine
