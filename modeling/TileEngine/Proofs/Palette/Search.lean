import TileEngine.Proofs.Palette.Nearest

/-!
The search for the nearest colour against two other forms of it. One looks at every active colour,
also behind an equal one, so it tells whether the early end of the search matters. The other
computes in machine words: the channels are widened to signed words of 32 bits, the distances are
compared as unsigned ones, and the result is narrowed to a byte. There a value that its words do
not hold stops the search instead of wrapping around. Both agree with the search on every palette.
-/

namespace TileEngine

namespace Color

/-- The squared distance is a sum of three squares in unbounded numbers. -/
theorem cast_distanceSquared (a b : Color) :
    (a.distanceSquared b : Int) = channelGap a.red b.red * channelGap a.red b.red +
      channelGap a.green b.green * channelGap a.green b.green +
      channelGap a.blue b.blue * channelGap a.blue b.blue := by
  have red := mul_self_nonneg (channelGap a.red b.red)
  have green := mul_self_nonneg (channelGap a.green b.green)
  have blue := mul_self_nonneg (channelGap a.blue b.blue)
  exact Int.toNat_of_nonneg (by omega)

end Color

/-! ## Without an early end -/

namespace Palette

/-- Scans all colours for the nearest one to a target, also behind an equal colour. -/
def scanAll (target : Color) : List Color → (index best least : Nat) → Nat
  | [], _, best, _ => best
  | color :: rest, index, best, least =>
    let distance := color.distanceSquared target
    if distance < least then scanAll target rest (index + 1) index distance
    else scanAll target rest (index + 1) best least

/-- No colour is nearer than one at distance zero. -/
theorem scanAll_zero (target : Color) (colors : List Color) (index best : Nat) :
    scanAll target colors index best 0 = best := by
  induction colors generalizing index with
  | nil => rfl
  | cons color rest ih =>
    simp only [scanAll, Nat.not_lt_zero, if_false]
    exact ih (index + 1)

/-- The early end of a search does not change what it finds. -/
theorem scanAll_eq (target : Color) (colors : List Color) (index best : Nat) {least : Nat}
    (pos : 0 < least) :
    scanAll target colors index best least = scanNearest target colors index best least := by
  induction colors generalizing index best least with
  | nil => rfl
  | cons color rest ih =>
    by_cases equal : color = target
    · -- the search ends here; the other one goes on with a distance that nothing is below
      have zero := Color.distanceSquared_eq_zero_iff.mpr equal
      simp only [scanAll, scanNearest, if_pos equal, zero, pos, if_true]
      exact scanAll_zero target rest (index + 1) index
    · have positive : 0 < color.distanceSquared target :=
        Nat.pos_of_ne_zero (mt Color.distanceSquared_eq_zero_iff.mp equal)
      simp only [scanAll, scanNearest, equal, if_false]
      split
      · exact ih (index + 1) index positive
      · exact ih (index + 1) best pos

end Palette

/-! ## In machine words -/

/-- What stops a computation in machine words. -/
inductive Overflow where
  /-- A value that is no signed word of 32 bits. -/
  | word (value : Int)
  /-- A position that is no byte. -/
  | byte (position : Nat)
  deriving DecidableEq, Repr

namespace InWords

/-- The signed word of a value. -/
def word (value : Int) : Except Overflow Int32 :=
  if -2147483648 ≤ value ∧ value ≤ 2147483647 then .ok (Int32.ofInt value)
  else .error (.word value)

/-- The byte of a position. -/
def byte (position : Nat) : Except Overflow UInt8 :=
  if position ≤ 255 then .ok position.toUInt8 else .error (.byte position)

/-- The difference of two words. -/
def sub (a b : Int32) : Except Overflow Int32 := word (a.toInt - b.toInt)

/-- The product of two words. -/
def mul (a b : Int32) : Except Overflow Int32 := word (a.toInt * b.toInt)

/-- The sum of two words. -/
def add (a b : Int32) : Except Overflow Int32 := word (a.toInt + b.toInt)

/-- A channel as a signed word, which has room for all of its values. -/
def channel (value : UInt8) : Int32 := Int32.ofNat value.toNat

/-- The squared distance of two colours, read as an unsigned word in the end. -/
def distanceSquared (a b : Color) : Except Overflow UInt32 := do
  let red ← sub (channel a.red) (channel b.red)
  let green ← sub (channel a.green) (channel b.green)
  let blue ← sub (channel a.blue) (channel b.blue)
  let reds ← mul red red
  let greens ← mul green green
  let warm ← add reds greens
  let blues ← mul blue blue
  let total ← add warm blues
  return total.toUInt32

/-- Scans colours for the nearest one to a target, with the best distance so far in a word. -/
def scanNearest (target : Color) : List Color → (index best : Nat) → (least : UInt32) →
    Except Overflow UInt8
  | [], _, best, _ => byte best
  | color :: rest, index, best, least =>
    if color = target then byte index
    else do
      let distance ← distanceSquared color target
      if distance < least then scanNearest target rest (index + 1) index distance
      else scanNearest target rest (index + 1) best least

/-- The position of the nearest active colour as a byte, zero when there is none. -/
def nearestIndex (p : Palette) (target : Color) : Except Overflow UInt8 :=
  scanNearest target p.active 0 0 0xFFFFFFFF

/-- A value that fits has a word. -/
theorem word_of_fits (value : Int) (low : -2147483648 ≤ value) (high : value ≤ 2147483647) :
    ∃ w, word value = .ok w ∧ w.toInt = value :=
  ⟨_, if_pos ⟨low, high⟩, Int32.toInt_ofInt_of_le low (Int.lt_of_le_sub_one high)⟩

theorem toInt_channel (value : UInt8) : (channel value).toInt = value.toNat := by
  have small := value.toNat_lt
  exact Int32.toInt_ofNat_of_lt (by omega)

/-- The difference of two channels is a word, and so is its square. -/
theorem gap_fits (a b : UInt8) :
    ∃ gap square, sub (channel a) (channel b) = .ok gap ∧ mul gap gap = .ok square ∧
      square.toInt = Color.channelGap a b * Color.channelGap a b ∧ square.toInt ≤ 65025 := by
  obtain ⟨low, high⟩ := Color.channelGap_bounds a b
  have bound := Color.channelGap_mul_self_le a b
  have positive := mul_self_nonneg (Color.channelGap a b)
  have difference : (channel a).toInt - (channel b).toInt = Color.channelGap a b := by
    rw [toInt_channel, toInt_channel, Color.channelGap]
  obtain ⟨gap, gap_eq, gap_value⟩ := word_of_fits (Color.channelGap a b) (by omega) (by omega)
  obtain ⟨square, square_eq, square_value⟩ :=
    word_of_fits (Color.channelGap a b * Color.channelGap a b) (by omega) (by omega)
  refine ⟨gap, square, ?_, ?_, square_value, by omega⟩
  · rw [sub, difference, gap_eq]
  · rw [mul, gap_value, square_eq]

/-- The sum of two words is a word as long as it fits. -/
theorem add_fits {a b : Int32} (low : -2147483648 ≤ a.toInt + b.toInt)
    (high : a.toInt + b.toInt ≤ 2147483647) :
    ∃ sum, add a b = .ok sum ∧ sum.toInt = a.toInt + b.toInt :=
  word_of_fits _ low high

theorem toNat_toUInt32 {w : Int32} {n : Nat} (value : w.toInt = n) : w.toUInt32.toNat = n := by
  have nonneg : 0 ≤ w := by
    rw [Int32.le_iff_toInt_le, value]
    exact Int.natCast_nonneg n
  rw [Int32.toNat_toUInt32_of_le nonneg, Int32.toNatClampNeg, value, Int.toNat_natCast]

/-- No step on the way to a distance leaves the signed words, and the unsigned word is the
distance. -/
theorem distanceSquared_fits (a b : Color) :
    ∃ d, distanceSquared a b = .ok d ∧ d.toNat = a.distanceSquared b := by
  obtain ⟨red, reds, red_eq, reds_eq, reds_value, reds_le⟩ := gap_fits a.red b.red
  obtain ⟨green, greens, green_eq, greens_eq, greens_value, greens_le⟩ := gap_fits a.green b.green
  obtain ⟨blue, blues, blue_eq, blues_eq, blues_value, blues_le⟩ := gap_fits a.blue b.blue
  -- each square is at most 65025, so the sums stay far below the largest word
  have reds_nonneg : 0 ≤ reds.toInt := reds_value ▸ mul_self_nonneg _
  have greens_nonneg : 0 ≤ greens.toInt := greens_value ▸ mul_self_nonneg _
  have blues_nonneg : 0 ≤ blues.toInt := blues_value ▸ mul_self_nonneg _
  obtain ⟨warm, warm_eq, warm_value⟩ := add_fits (a := reds) (b := greens) (by omega) (by omega)
  obtain ⟨total, total_eq, total_value⟩ := add_fits (a := warm) (b := blues) (by omega) (by omega)
  refine ⟨total.toUInt32, ?_, toNat_toUInt32 ?_⟩
  · simp only [distanceSquared, red_eq, green_eq, blue_eq, reds_eq, greens_eq, warm_eq, blues_eq,
      total_eq, bind, Except.bind]
    rfl
  · rw [total_value, warm_value, reds_value, greens_value, blues_value, Color.cast_distanceSquared]

/-- A search in words is the search in unbounded numbers, up to its last step. -/
theorem scanNearest_eq (target : Color) (colors : List Color) (index best : Nat) (least : UInt32) :
    scanNearest target colors index best least =
      byte (Palette.scanNearest target colors index best least.toNat) := by
  induction colors generalizing index best least with
  | nil => rfl
  | cons color rest ih =>
    by_cases equal : color = target
    · simp only [scanNearest, Palette.scanNearest, equal, if_true]
    · obtain ⟨d, distance, value⟩ := distanceSquared_fits color target
      simp only [scanNearest, Palette.scanNearest, equal, if_false, distance, bind, Except.bind, ← value,
        UInt32.lt_iff_toNat_lt]
      split
      · exact ih (index + 1) index d
      · exact ih (index + 1) best least

/-- No search is stopped: every distance is a word and every position a byte. -/
theorem nearestIndex_eq (p : Palette) (target : Color) :
    nearestIndex p target = .ok (p.nearestIndex target) := by
  have position := p.toNat_nearestIndex target
  have small := (p.nearestIndex target).toNat_lt
  rw [nearestIndex, scanNearest_eq]
  exact if_pos (show p.nearest target ≤ 255 by omega)

end InWords

namespace Palette

/-- What the search gives back is the nearest entry, or zero in a palette without one. -/
theorem toNat_nearestIndex_eq_iff {p : Palette} {target : Color} {i : Nat} :
    (p.nearestIndex target).toNat = i ↔ p.IsNearest target i ∨ p.len = 0 ∧ i = 0 := by
  rw [toNat_nearestIndex]
  rcases Nat.eq_zero_or_pos p.len with empty | nonempty
  · rw [nearest_of_empty empty]
    constructor
    · rintro rfl
      exact .inr ⟨empty, rfl⟩
    · rintro (nearest | ⟨-, rfl⟩)
      · have := nearest.active
        omega
      · rfl
  · have found := isNearest_nearest target nonempty
    constructor
    · rintro rfl
      exact .inl found
    · rintro (nearest | ⟨empty, -⟩)
      · exact found.unique nearest
      · omega

/-- A colour that the palette has is found at its first entry. -/
theorem nearest_le_of_shown {p : Palette} {target : Color} {j : Nat} (inside : j < p.len)
    (shows : p.shown j = target) :
    p.shown (p.nearest target) = target ∧ p.nearest target ≤ j := by
  have found := isNearest_nearest target (Nat.zero_lt_of_lt inside)
  refine ⟨found.shown_of_exact inside shows, ?_⟩
  by_contra later
  have farther := found.first j (by omega)
  have zero := Color.distanceSquared_eq_zero_iff.mpr shows
  omega

/-- The search for the nearest colour. It finds the lowest of the active entries at the least
squared distance to the target, and zero in a palette without entries. A colour that the palette
has is found as itself, at its first entry, and to look on behind it would find the same. The
squared distance is the one of unbounded numbers: in machine words no difference, product or sum on
the way to it overflows, and neither a word nor the byte of the result is cut off. -/
theorem nearestIndex_exact (p : Palette) (target : Color) :
    (∀ i, (p.nearestIndex target).toNat = i ↔ p.IsNearest target i ∨ p.len = 0 ∧ i = 0) ∧
      (∀ j < p.len, p.shown j = target →
        p.shown (p.nearestIndex target).toNat = target ∧ (p.nearestIndex target).toNat ≤ j) ∧
      scanAll target p.active 0 0 0xFFFFFFFF = (p.nearestIndex target).toNat ∧
      (∀ color : Color, ∃ d, InWords.distanceSquared color target = .ok d ∧
        d.toNat = color.distanceSquared target) ∧
      InWords.nearestIndex p target = .ok (p.nearestIndex target) := by
  refine ⟨fun i => toNat_nearestIndex_eq_iff, fun j inside shows => ?_, ?_,
    fun color => InWords.distanceSquared_fits color target, InWords.nearestIndex_eq p target⟩
  · rw [toNat_nearestIndex]
    exact nearest_le_of_shown inside shows
  · rw [toNat_nearestIndex, nearest]
    exact scanAll_eq target p.active 0 0 (by decide)

/-- Grey is there twice, behind a colour that is farther away: the first of both is found. -/
theorem nearestIndex_exact_twice :
    let grey : Color := ⟨9, 9, 9⟩
    let p : Palette := ⟨writeFrom empty.cells 0 [.white, grey, grey], 3, by decide⟩
    p.shown 1 = grey ∧ p.shown 2 = grey ∧ p.nearestIndex grey = 1 ∧
      InWords.nearestIndex p grey = .ok 1 := by
  intro grey p
  have first : p.shown 1 = grey := by decide +kernel
  obtain ⟨-, exact_match, -, -, words⟩ := nearestIndex_exact p grey
  obtain ⟨shows, early⟩ := exact_match 1 (by decide) first
  have found : p.nearestIndex grey = 1 := by
    rw [← UInt8.toNat_inj]
    have other : p.shown 0 ≠ grey := by decide +kernel
    have positive : (p.nearestIndex grey).toNat ≠ 0 := fun zero => other (zero ▸ shows)
    change _ = 1
    omega
  exact ⟨first, by decide +kernel, found, found ▸ words⟩

end Palette

end TileEngine
