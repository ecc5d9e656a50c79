import TileEngine.Text.Utf8
import Mathlib.Tactic.Common

/-!
Texts and their bytes. The bytes of a text are those of its characters one after the other, and
decoding them gives the text back. A byte below 128 stands for the character of that number and is
part of no other, so a text can be taken apart at such a character before or after it is encoded.
-/

namespace TileEngine.Text

/-- The bytes of characters. -/
def encodeChars (cs : List Char) : List UInt8 := cs.flatMap String.utf8EncodeChar

theorem toList_loop (bytes : ByteArray) (i : Nat) (done : List UInt8) :
    ByteArray.toList.loop bytes i done = done.reverse ++ bytes.data.toList.drop i := by
  fun_induction ByteArray.toList.loop bytes i done with
  | case1 i done more ih =>
    have here : i < bytes.data.toList.length := by simpa using more
    rw [ih, List.drop_eq_getElem_cons here]
    simp [ByteArray.get!, more]
  | case2 i done past =>
    rw [List.drop_eq_nil_of_le (by simpa using Nat.le_of_not_lt past), List.append_nil]

theorem encode_eq (s : String) : encode s = encodeChars s.toList := by
  have bytes : s.toUTF8.data = (encodeChars s.toList).toArray := by
    conv_lhs => rw [← String.ofList_toList (s := s)]
    rw [String.toUTF8_eq_toByteArray, String.toByteArray_ofList]
    exact List.data_toByteArray
  rw [encode, ByteArray.toList, toList_loop, bytes]
  rfl

/-! ## Single bytes -/

/-- A byte that is the `n`-th one. -/
theorem toNat_ofNat {n : Nat} (byte : n < 256) : (UInt8.ofNat n).toNat = n := by
  simp [Nat.mod_eq_of_lt byte]

/-- What a first byte announces, by its number. -/
theorem lead?_ofNat {n : Nat} (byte : n < 256) :
    lead? (UInt8.ofNat n) =
      if n < 128 then some ⟨0, 0x80, 0xBF, n⟩
      else if n < 194 then none
      else if n < 224 then some ⟨1, 0x80, 0xBF, n - 192⟩
      else if n = 224 then some ⟨2, 0xA0, 0xBF, 0⟩
      else if n = 237 then some ⟨2, 0x80, 0x9F, 13⟩
      else if n < 240 then some ⟨2, 0x80, 0xBF, n - 224⟩
      else if n = 240 then some ⟨3, 0x90, 0xBF, 0⟩
      else if n < 244 then some ⟨3, 0x80, 0xBF, n - 240⟩
      else if n = 244 then some ⟨3, 0x80, 0x8F, 4⟩
      else none := by
  have number := toNat_ofNat byte
  simp only [lead?, UInt8.lt_iff_toNat_lt, ← UInt8.toNat_inj, number]
  rfl

/-- A following byte brings six more bits. -/
theorem readTail_cons {low high : UInt8} {count value bits : Nat} {rest : List UInt8}
    (small : bits < 64) (reached : low.toNat ≤ bits + 128) (within : bits + 128 ≤ high.toNat) :
    readTail (count + 1) low high value (UInt8.ofNat (bits + 128) :: rest) =
      readTail count 0x80 0xBF (value * 64 + bits) rest := by
  have number : (UInt8.ofNat (bits + 128)).toNat = bits + 128 := toNat_ofNat (by omega)
  rw [readTail]
  simp only [UInt8.le_iff_toNat_le, number, reached, within, decide_true, Bool.and_self, if_true,
    Nat.add_sub_cancel]

/-- A byte that follows neither of the first bytes with a tighter range. -/
theorem readTail_next {count value bits : Nat} (small : bits < 64) (rest : List UInt8) :
    readTail (count + 1) 0x80 0xBF value (UInt8.ofNat (bits + 128) :: rest) =
      readTail count 0x80 0xBF (value * 64 + bits) rest := by
  apply readTail_cons small (Nat.le_add_left ..)
  change _ ≤ 191
  omega

/-- The first of three bytes lets the second one pass: 224 excludes what has a shorter form, and 237
the surrogates. -/
theorem lead?_three {n : Nat} (large : 2048 ≤ n) (small : n < 65536)
    (valid : n < 55296 ∨ 57344 ≤ n) :
    ∃ low high, lead? (UInt8.ofNat (n / 4096 % 16 + 224)) = some ⟨2, low, high, n / 4096⟩ ∧
      low.toNat ≤ n / 64 % 64 + 128 ∧ n / 64 % 64 + 128 ≤ high.toNat := by
  rw [lead?_ofNat (by omega), if_neg (by omega), if_neg (by omega), if_neg (by omega)]
  by_cases lowest : n / 4096 = 0
  · refine ⟨0xA0, 0xBF, ?_, ?_, ?_⟩
    · rw [if_pos (by omega), lowest]
    · change 160 ≤ _
      omega
    · change _ ≤ 191
      omega
  · rw [if_neg (by omega)]
    by_cases below : n / 4096 = 13
    · refine ⟨0x80, 0x9F, ?_, Nat.le_add_left .., ?_⟩
      · rw [if_pos (by omega), below]
      · change _ ≤ 159
        omega
    · have bits : n / 4096 % 16 + 224 - 224 = n / 4096 := by omega
      refine ⟨0x80, 0xBF, ?_, Nat.le_add_left .., ?_⟩
      · rw [if_neg (by omega), if_pos (by omega), bits]
      · change _ ≤ 191
        omega

/-- The first of four bytes lets the second one pass: 240 excludes what has a shorter form, and 244
what is no character. -/
theorem lead?_four {n : Nat} (large : 65536 ≤ n) (small : n < 1114112) :
    ∃ low high, lead? (UInt8.ofNat (n / 262144 % 8 + 240)) = some ⟨3, low, high, n / 262144⟩ ∧
      low.toNat ≤ n / 4096 % 64 + 128 ∧ n / 4096 % 64 + 128 ≤ high.toNat := by
  rw [lead?_ofNat (by omega), if_neg (by omega), if_neg (by omega), if_neg (by omega),
    if_neg (by omega), if_neg (by omega), if_neg (by omega)]
  by_cases lowest : n / 262144 = 0
  · refine ⟨0x90, 0xBF, ?_, ?_, ?_⟩
    · rw [if_pos (by omega), lowest]
    · change 144 ≤ _
      omega
    · change _ ≤ 191
      omega
  · rw [if_neg (by omega)]
    by_cases highest : n / 262144 = 4
    · refine ⟨0x80, 0x8F, ?_, Nat.le_add_left .., ?_⟩
      · rw [if_neg (by omega), if_pos (by omega), highest]
      · change _ ≤ 143
        omega
    · have bits : n / 262144 % 8 + 240 - 240 = n / 262144 := by omega
      refine ⟨0x80, 0xBF, ?_, Nat.le_add_left .., ?_⟩
      · rw [if_pos (by omega), bits]
      · change _ ≤ 191
        omega

/-! ## One character -/

/-- A character that takes one byte. -/
theorem decodeChar_one {n : Nat} (small : n < 128) (rest : List UInt8) :
    decodeChar (UInt8.ofNat n) rest = (some (Char.ofNat n), rest) := by
  rw [decodeChar, lead?_ofNat (by omega), if_pos small]
  rfl

theorem decodeChar_two {n : Nat} (large : 128 ≤ n) (small : n < 2048) (rest : List UInt8) :
    decodeChar (UInt8.ofNat (n / 64 % 32 + 192)) (UInt8.ofNat (n % 64 + 128) :: rest) =
      (some (Char.ofNat n), rest) := by
  have lead : lead? (UInt8.ofNat (n / 64 % 32 + 192)) = some ⟨1, 0x80, 0xBF, n / 64⟩ := by
    have bits : n / 64 % 32 + 192 - 192 = n / 64 := by omega
    rw [lead?_ofNat (by omega), if_neg (by omega), if_neg (by omega), if_pos (by omega), bits]
  have whole : n / 64 * 64 + n % 64 = n := Nat.div_add_mod' n 64
  rw [decodeChar, lead]
  dsimp only
  rw [readTail_next (by omega), readTail, whole]
  rfl

theorem decodeChar_three {n : Nat} (large : 2048 ≤ n) (small : n < 65536)
    (valid : n < 55296 ∨ 57344 ≤ n) (rest : List UInt8) :
    decodeChar (UInt8.ofNat (n / 4096 % 16 + 224)) (UInt8.ofNat (n / 64 % 64 + 128) ::
      UInt8.ofNat (n % 64 + 128) :: rest) = (some (Char.ofNat n), rest) := by
  obtain ⟨low, high, lead, reached, within⟩ := lead?_three large small valid
  have whole : (n / 4096 * 64 + n / 64 % 64) * 64 + n % 64 = n := by omega
  rw [decodeChar, lead]
  dsimp only
  rw [readTail_cons (by omega) reached within, readTail_next (by omega), readTail, whole]
  rfl

theorem decodeChar_four {n : Nat} (large : 65536 ≤ n) (small : n < 1114112) (rest : List UInt8) :
    decodeChar (UInt8.ofNat (n / 262144 % 8 + 240)) (UInt8.ofNat (n / 4096 % 64 + 128) ::
      UInt8.ofNat (n / 64 % 64 + 128) :: UInt8.ofNat (n % 64 + 128) :: rest) =
      (some (Char.ofNat n), rest) := by
  obtain ⟨low, high, lead, reached, within⟩ := lead?_four large small
  have whole : ((n / 262144 * 64 + n / 4096 % 64) * 64 + n / 64 % 64) * 64 + n % 64 = n := by
    omega
  rw [decodeChar, lead]
  dsimp only
  rw [readTail_cons (by omega) reached within, readTail_next (by omega),
    readTail_next (by omega), readTail, whole]
  rfl

/-- A character stands in front as its bytes, of which there is at least one. -/
theorem decodeChar_encoded (c : Char) (rest : List UInt8) :
    ∃ first tail, String.utf8EncodeChar c = first :: tail ∧
      decodeChar first (tail ++ rest) = (some c, rest) := by
  have valid : c.toNat < 55296 ∨ 57343 < c.toNat ∧ c.toNat < 1114112 := c.valid
  have same : some (Char.ofNat c.toNat) = some c := congrArg some (Char.ofNat_toNat c)
  rw [← same]
  unfold String.utf8EncodeChar
  simp only [Char.toNat_val]
  split_ifs with one two three
  · exact ⟨_, _, rfl, decodeChar_one (by omega) rest⟩
  · exact ⟨_, _, rfl, decodeChar_two (by omega) (by omega) rest⟩
  · exact ⟨_, _, rfl, decodeChar_three (by omega) (by omega) (by omega) rest⟩
  · exact ⟨_, _, rfl, decodeChar_four (by omega) (by omega) rest⟩

theorem utf8EncodeChar_of_lt {c : Char} (small : c.toNat < 128) :
    String.utf8EncodeChar c = [UInt8.ofNat c.toNat] := by
  unfold String.utf8EncodeChar
  simp only [Char.toNat_val]
  exact if_pos (Nat.le_of_lt_succ small)

/-- All bytes of a character that takes more than one are at least 128. -/
theorem le_toNat_of_mem {c : Char} {b : UInt8} (large : 128 ≤ c.toNat)
    (member : b ∈ String.utf8EncodeChar c) : 128 ≤ b.toNat := by
  have marked {bits mark : Nat} (high : 128 ≤ mark) (fits : bits + mark < 256) :
      128 ≤ (UInt8.ofNat (bits + mark)).toNat := by
    rw [toNat_ofNat fits]
    omega
  unfold String.utf8EncodeChar at member
  simp only [Char.toNat_val] at member
  split_ifs at member with one two three
  · omega
  all_goals simp only [List.mem_cons, List.not_mem_nil, or_false] at member
  · rcases member with rfl | rfl <;> exact marked (by decide) (by omega)
  · rcases member with rfl | rfl | rfl <;> exact marked (by decide) (by omega)
  · rcases member with rfl | rfl | rfl | rfl <;> exact marked (by decide) (by omega)

/-! ## Bytes of a text -/

theorem encodeChars_cons (c : Char) (cs : List Char) :
    encodeChars (c :: cs) = String.utf8EncodeChar c ++ encodeChars cs := List.flatMap_cons

theorem encodeChars_ne_nil {cs : List Char} (some_char : cs ≠ []) : encodeChars cs ≠ [] := by
  obtain ⟨c, rest, rfl⟩ := List.exists_cons_of_ne_nil some_char
  rw [encodeChars_cons]
  exact List.append_ne_nil_of_left_ne_nil String.utf8EncodeChar_ne_nil _

theorem encodeChars_append (cs ds : List Char) :
    encodeChars (cs ++ ds) = encodeChars cs ++ encodeChars ds := List.flatMap_append

/-- Decoding takes the characters off one by one. -/
theorem decodeSteps_encodeChars (cs : List Char) (steps : Nat)
    (enough : (encodeChars cs).length ≤ steps) :
    decodeSteps steps (encodeChars cs) = cs.map some := by
  induction cs generalizing steps with
  | nil => cases steps <;> rfl
  | cons c cs ih =>
    obtain ⟨first, tail, bytes, decoded⟩ := decodeChar_encoded c (encodeChars cs)
    have whole : encodeChars (c :: cs) = first :: (tail ++ encodeChars cs) := by
      rw [encodeChars_cons, bytes]
      rfl
    rw [whole] at enough ⊢
    simp only [List.length_cons, List.length_append] at enough
    obtain ⟨steps, rfl⟩ := Nat.exists_eq_succ_of_ne_zero (show steps ≠ 0 by omega)
    rw [decodeSteps, decoded]
    dsimp only
    rw [ih steps (by omega)]
    rfl

theorem decodeLossy_encodeChars (cs : List Char) :
    decodeLossy (encodeChars cs) = String.ofList cs := by
  rw [decodeLossy, decode, decodeSteps_encodeChars cs _ (Nat.le_refl _), List.map_map]
  exact congrArg String.ofList (List.map_id cs)

/-- What was encoded is well formed, and decodes to what it was. -/
theorem decode?_encode (s : String) : decode? (encode s) = some s := by
  have all : ∀ cs : List Char, (cs.map some).mapM id = some cs := by
    intro cs
    induction cs with
    | nil => rfl
    | cons c cs ih => simp [ih]
  rw [decode?, decode, encode_eq, decodeSteps_encodeChars _ _ (Nat.le_refl _), all,
    Option.map_some, String.ofList_toList]

/-- A byte below 128 stands for one character only. -/
theorem mem_utf8EncodeChar_iff {c d : Char} (small : c.toNat < 128) :
    UInt8.ofNat c.toNat ∈ String.utf8EncodeChar d ↔ d = c := by
  have number : (UInt8.ofNat c.toNat).toNat = c.toNat := toNat_ofNat (by omega)
  constructor
  · intro member
    by_cases one : d.toNat < 128
    · rw [utf8EncodeChar_of_lt one, List.mem_singleton] at member
      have same := congrArg UInt8.toNat member
      rw [number, toNat_ofNat (by omega)] at same
      exact (Char.toNat_inj.mp same).symm
    · have large := le_toNat_of_mem (Nat.le_of_not_lt one) member
      omega
  · rintro rfl
    rw [utf8EncodeChar_of_lt small]
    exact List.mem_singleton_self _

/-- Taking out a character below 128 is taking out its byte. -/
theorem encodeChars_filter {c : Char} (small : c.toNat < 128) (cs : List Char) :
    encodeChars (cs.filter (· != c)) = (encodeChars cs).filter (· != UInt8.ofNat c.toNat) := by
  induction cs with
  | nil => rfl
  | cons d cs ih =>
    rw [encodeChars_cons, List.filter_append, ← ih, List.filter_cons]
    by_cases same : d = c
    · have gone : (String.utf8EncodeChar d).filter (· != UInt8.ofNat c.toNat) = [] := by
        rw [same, utf8EncodeChar_of_lt small]
        simp
      rw [gone, if_neg (by simpa using same)]
      rfl
    · have kept : (String.utf8EncodeChar d).filter (· != UInt8.ofNat c.toNat) =
          String.utf8EncodeChar d := by
        refine List.filter_eq_self.mpr fun b member => bne_iff_ne.mpr ?_
        rintro rfl
        exact same ((mem_utf8EncodeChar_iff small).mp member)
      rw [kept, if_pos (by simpa using same), encodeChars_cons]

end TileEngine.Text
