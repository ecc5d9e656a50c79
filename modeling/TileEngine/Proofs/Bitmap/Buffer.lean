import TileEngine.Bitmap.Blit
import Mathlib.Tactic.Common
import Mathlib.Tactic.IntervalCases

/-!
Bytes and bits of a pixel buffer. Every write of the library is one of two kinds:
a run of bytes, or a span that is copied from another buffer under a mask. What a
byte holds afterwards is stated once for each kind, for every address; the bits
of a byte are counted from the left, as single-bit pixels are.
-/

namespace TileEngine

/-! ## Folds that write -/

/-- A fold of updates, read at one place: it has the value that is written there
if some update of the list owns the place, and else what it had before. -/
theorem foldl_read {α ι γ : Type} (update : α → ι → α) (read : α → γ) (inv : α → Prop)
    (owns : ι → Prop) (value : γ) (items : List ι)
    (keep : ∀ i ∈ items, ∀ s, inv s → inv (update s i))
    (own : ∀ i ∈ items, ∀ s, inv s → owns i → read (update s i) = value)
    (other : ∀ i ∈ items, ∀ s, inv s → ¬owns i → read (update s i) = read s)
    (start : α) (holds : inv start) :
    ((∃ i ∈ items, owns i) → read (items.foldl update start) = value) ∧
      ((¬∃ i ∈ items, owns i) → read (items.foldl update start) = read start) := by
  induction items generalizing start with
  | nil => simp
  | cons head tail ih =>
    have first := keep head (by simp) start holds
    have rest := ih (fun i hi => keep i (by simp [hi])) (fun i hi => own i (by simp [hi]))
      (fun i hi => other i (by simp [hi])) (update start head) first
    rw [List.foldl_cons]
    by_cases later : ∃ i ∈ tail, owns i
    · refine ⟨fun _ => rest.1 later, fun none => absurd ?_ none⟩
      obtain ⟨i, hi, owned⟩ := later
      exact ⟨i, by simp [hi], owned⟩
    · rw [rest.2 later]
      by_cases now : owns head
      · exact ⟨fun _ => own head (by simp) start holds now, fun none => absurd ⟨head, by simp, now⟩ none⟩
      · refine ⟨fun some => absurd some ?_, fun _ => other head (by simp) start holds now⟩
        simpa [now] using later

namespace Bitmap

/-- A property that every update of a scan keeps. -/
theorem scan_keeps {α : Type} {size : Vec2} {update : Nat → Nat → α → α} (inv : α → Prop)
    (keep : ∀ x < size.x.toNat, ∀ y < size.y.toNat, ∀ s, inv s → inv (update x y s))
    {start : α} (holds : inv start) : inv (scan size update start) := by
  refine List.foldlRecOn _ _ holds fun row hrow y hy => ?_
  refine List.foldlRecOn _ _ hrow fun s hs x hx => ?_
  exact keep x (List.mem_range.mp hx) y (List.mem_range.mp hy) s hs

/-- Two scans whose updates keep a relation end in related states. -/
theorem scan_related {α β : Type} {size : Vec2} {f : Nat → Nat → α → α} {g : Nat → Nat → β → β}
    (related : α → β → Prop)
    (keep : ∀ x < size.x.toNat, ∀ y < size.y.toNat, ∀ s t, related s t → related (f x y s) (g x y t))
    {s : α} {t : β} (holds : related s t) : related (scan size f s) (scan size g t) := by
  refine List.foldl_rel holds fun y hy s t hst => ?_
  refine List.foldl_rel hst fun x hx s t hst => ?_
  exact keep x (List.mem_range.mp hx) y (List.mem_range.mp hy) s t hst

/-- A scan, read at one place: it has the value of the position that owns the
place, and what it had before where no position of the extent does. -/
theorem scan_read {α γ : Type} {size : Vec2} {update : Nat → Nat → α → α} (read : α → γ)
    (inv : α → Prop) (owns : Nat → Nat → Prop) (value : γ)
    (keep : ∀ x < size.x.toNat, ∀ y < size.y.toNat, ∀ s, inv s → inv (update x y s))
    (own : ∀ x < size.x.toNat, ∀ y < size.y.toNat, ∀ s, inv s → owns x y →
      read (update x y s) = value)
    (other : ∀ x < size.x.toNat, ∀ y < size.y.toNat, ∀ s, inv s → ¬owns x y →
      read (update x y s) = read s)
    {start : α} (holds : inv start) :
    ((∃ x < size.x.toNat, ∃ y < size.y.toNat, owns x y) → read (scan size update start) = value) ∧
      ((¬∃ x < size.x.toNat, ∃ y < size.y.toNat, owns x y) →
        read (scan size update start) = read start) := by
  have row (y : Nat) (hy : y < size.y.toNat) (s : α) (hs : inv s) :=
    foldl_read (fun s x => update x y s) read inv (fun x => owns x y) value
      (List.range size.x.toNat) (fun x hx => keep x (List.mem_range.mp hx) y hy)
      (fun x hx => own x (List.mem_range.mp hx) y hy)
      (fun x hx => other x (List.mem_range.mp hx) y hy) s hs
  have rows := foldl_read
    (fun s y => (List.range size.x.toNat).foldl (fun s x => update x y s) s) read inv
    (fun y => ∃ x ∈ List.range size.x.toNat, owns x y) value (List.range size.y.toNat)
    (fun y hy s hs => List.foldlRecOn _ _ hs fun s hs x hx =>
      keep x (List.mem_range.mp hx) y (List.mem_range.mp hy) s hs)
    (fun y hy s hs => (row y (List.mem_range.mp hy) s hs).1)
    (fun y hy s hs => (row y (List.mem_range.mp hy) s hs).2) start holds
  refine ⟨?_, ?_⟩
  · rintro ⟨x, hx, y, hy, owned⟩
    exact rows.1 ⟨y, List.mem_range.mpr hy, x, List.mem_range.mpr hx, owned⟩
  · intro none
    refine rows.2 ?_
    rintro ⟨y, hy, x, hx, owned⟩
    exact none ⟨x, List.mem_range.mp hx, y, List.mem_range.mp hy, owned⟩

/-! ## Runs of bytes -/

theorem getD_zeros (n i : Nat) : (Array.replicate n (0 : UInt8)).getD i 0 = 0 := by
  rw [Array.getD_eq_getD_getElem?, Array.getElem?_replicate]
  split <;> rfl

theorem getD_setIfInBounds (buffer : Array UInt8) (address i : Nat) (byte : UInt8) :
    (buffer.setIfInBounds address byte).getD i 0 =
      if i = address ∧ i < buffer.size then byte else buffer.getD i 0 := by
  simp only [Array.getD_eq_getD_getElem?, Array.getElem?_setIfInBounds]
  by_cases equal : i = address
  · subst equal
    by_cases inside : i < buffer.size <;> simp [inside]
  · simp [equal, Ne.symm equal]

@[simp] theorem size_writeRun (buffer : Array UInt8) (address : Nat) (bytes : List UInt8) :
    (writeRun buffer address bytes).size = buffer.size := by
  induction bytes generalizing buffer address with
  | nil => rfl
  | cons byte rest ih => rw [writeRun, ih, Array.size_setIfInBounds]

/-- A run of bytes covers its addresses, as far as they are inside the buffer. -/
theorem getD_writeRun (buffer : Array UInt8) (address : Nat) (bytes : List UInt8) (i : Nat) :
    (writeRun buffer address bytes).getD i 0 =
      if address ≤ i ∧ i < address + bytes.length ∧ i < buffer.size then
        bytes.getD (i - address) 0
      else buffer.getD i 0 := by
  induction bytes generalizing buffer address with
  | nil => simp only [writeRun, List.length_nil]; rw [if_neg (by omega)]
  | cons byte rest ih =>
    rw [writeRun, ih, Array.size_setIfInBounds, getD_setIfInBounds, List.length_cons]
    by_cases first : i = address
    · subst first
      rw [if_neg (by omega)]
      by_cases inside : i < buffer.size
      · rw [if_pos ⟨rfl, inside⟩, if_pos ⟨by omega, by omega, inside⟩]
        simp
      · rw [if_neg (by omega), if_neg (by omega)]
    · by_cases covered : address + 1 ≤ i ∧ i < address + 1 + rest.length ∧ i < buffer.size
      · rw [if_pos covered, if_pos ⟨by omega, by omega, covered.2.2⟩]
        rw [show i - address = i - (address + 1) + 1 by omega]
        simp
      · rw [if_neg covered, if_neg (fun both => first both.1), if_neg (by omega)]

@[simp] theorem length_readRun (buffer : Array UInt8) (address length : Nat) :
    (readRun buffer address length).length = length := by
  simp [readRun]

theorem getD_readRun (buffer : Array UInt8) {address length j : Nat} (inside : j < length) :
    (readRun buffer address length).getD j 0 = buffer.getD (address + j) 0 := by
  simp [readRun, inside]

end Bitmap

/-! ## Spans under their mask -/

namespace Span

/-- The bits of the byte at address `i` that a span writes, for a span that starts
at address `start`. -/
def maskFrom (s : Span) (start i : Nat) : UInt8 :=
  if i < start then 0
  else if i < start + s.length then 0xFF
  else if i = start + s.length then s.tail
  else 0

@[simp] theorem size_copy (source target : Array UInt8) (s : Span) :
    (copy source target s).size = target.size := by
  unfold copy
  split <;> simp

theorem merge_all (t s : UInt8) : t &&& ~~~0xFF ||| s &&& 0xFF = s := by
  apply UInt8.eq_of_toBitVec_eq
  simp only [UInt8.toBitVec_or, UInt8.toBitVec_and, UInt8.toBitVec_not]
  rw [show (0xFF : UInt8).toBitVec = BitVec.allOnes 8 by decide, BitVec.not_allOnes,
    BitVec.and_zero, BitVec.and_allOnes, BitVec.zero_or]

theorem merge_none (t s : UInt8) : t &&& ~~~0 ||| s &&& 0 = t := by
  apply UInt8.eq_of_toBitVec_eq
  simp

/-- Every byte of the target keeps the bits outside the mask and takes those
inside it from the source. -/
theorem getD_copy (source target : Array UInt8) (s : Span) {i : Nat} (inside : i < target.size) :
    (copy source target s).getD i 0 =
      target.getD i 0 &&& ~~~s.maskFrom s.target i |||
        source.getD (s.source + (i - s.target)) 0 &&& s.maskFrom s.target i := by
  have run : (Bitmap.writeRun target s.target (Bitmap.readRun source s.source s.length)).getD i 0 =
      if s.target ≤ i ∧ i < s.target + s.length then source.getD (s.source + (i - s.target)) 0
      else target.getD i 0 := by
    rw [Bitmap.getD_writeRun, Bitmap.length_readRun]
    by_cases covered : s.target ≤ i ∧ i < s.target + s.length
    · rw [if_pos ⟨covered.1, covered.2, inside⟩, if_pos covered, Bitmap.getD_readRun _ (by omega)]
    · rw [if_neg covered, if_neg (by omega)]
  by_cases last : i = s.target + s.length
  · -- the byte behind the run: only here does the tail matter
    have mask : s.maskFrom s.target i = s.tail := by
      unfold maskFrom
      rw [if_neg (by omega), if_neg (by omega), if_pos last]
    rw [mask]
    rw [if_neg (by omega)] at run
    by_cases zero : s.tail = 0
    · rw [copy, if_pos zero, run, zero, merge_none]
    · rw [copy, if_neg zero, Bitmap.getD_setIfInBounds, Bitmap.size_writeRun, if_pos ⟨last, inside⟩]
      rw [← last, run, last, Nat.add_sub_cancel_left]
  · have unmasked : (copy source target s).getD i 0 =
        (Bitmap.writeRun target s.target (Bitmap.readRun source s.source s.length)).getD i 0 := by
      unfold copy
      split
      · rfl
      · rw [Bitmap.getD_setIfInBounds, if_neg (fun both => last both.1)]
    rw [unmasked, run, maskFrom]
    by_cases before : i < s.target
    · rw [if_neg (by omega), if_pos before, merge_none]
    · by_cases covered : i < s.target + s.length
      · rw [if_pos (by omega), if_neg before, if_pos covered, merge_all]
      · rw [if_neg (by omega), if_neg before, if_neg covered, if_neg last, merge_none]

end Span

/-! ## Bits -/

namespace Bitmap

/-- The bit of a byte that is `k`-th from the left. -/
def bitOf (byte : UInt8) (k : Nat) : Bool := byte.toBitVec.getMsbD k

/-- Bytes are equal when their bits are. -/
theorem byte_eq_iff {a b : UInt8} : a = b ↔ ∀ k < 8, bitOf a k = bitOf b k := by
  constructor
  · intro equal k _
    rw [equal]
  · intro bits
    apply UInt8.eq_of_toBitVec_eq
    apply BitVec.eq_of_getMsbD_eq
    exact bits

theorem bitOf_all {k : Nat} (hk : k < 8) : bitOf 0xFF k = true := by
  interval_cases k <;> decide

@[simp] theorem bitOf_zero (k : Nat) : bitOf 0 k = false := by
  simp [bitOf]

theorem and_one (byte : UInt8) : byte &&& 1 = if byte.toBitVec.getLsbD 0 then 1 else 0 := by
  apply UInt8.eq_of_toBitVec_eq
  rw [UInt8.toBitVec_and]
  apply BitVec.eq_of_getLsbD_eq
  intro i hi
  rw [BitVec.getLsbD_and]
  by_cases set : byte.toBitVec.getLsbD 0 = true
  · rw [if_pos set]
    interval_cases i <;> simp_all
  · rw [if_neg set]
    rw [Bool.not_eq_true] at set
    interval_cases i <;> first | rw [set]; rfl | simp

theorem shiftRight_and_one (byte : UInt8) {k : Nat} (hk : k < 8) :
    (byte >>> (7 - k).toUInt8) &&& 1 = if bitOf byte k then 1 else 0 := by
  rw [and_one]
  congr 2
  simp only [bitOf, BitVec.getMsbD, UInt8.toBitVec_shiftRight]
  interval_cases k <;> simp

theorem bitOf_bitMask (x : Nat) {k : Nat} (hk : k < 8) : bitOf (bitMask x) k = decide (k = x % 8) := by
  have small : x % 8 < 8 := Nat.mod_lt _ (by decide)
  unfold bitMask
  generalize x % 8 = m at *
  interval_cases m <;> interval_cases k <;> decide

theorem bitOf_tailMask (width : Nat) {k : Nat} (hk : k < 8) :
    bitOf (Span.tailMask width) k = decide (k < width % 8) := by
  have small : width % 8 < 8 := Nat.mod_lt _ (by decide)
  unfold Span.tailMask
  generalize width % 8 = m at *
  interval_cases m <;> interval_cases k <;> decide

theorem bitOf_merge (t s m : UInt8) {k : Nat} (hk : k < 8) :
    bitOf (t &&& ~~~m ||| s &&& m) k = if bitOf m k then bitOf s k else bitOf t k := by
  simp only [bitOf, UInt8.toBitVec_or, UInt8.toBitVec_and, UInt8.toBitVec_not, BitVec.getMsbD_or,
    BitVec.getMsbD_and, BitVec.getMsbD_not, hk, decide_true, Bool.true_and]
  by_cases masked : m.toBitVec.getMsbD k = true <;> simp [masked]

end Bitmap

end TileEngine
