import TileEngine.Ron.Number
import TileEngine.Text.Quoted
import Mathlib.Data.List.TakeDrop
import Mathlib.Tactic.Common

/-!
Reading what was written. Blanks, quoted strings, decimal numbers and names are read back off the
front of a text. What follows a number or a name must not go on with characters of a word; a string
ends at its own quote, and every escape in it stands for the character that was escaped.
-/

namespace TileEngine.Ron

variable {c : Char} {cs rest word : List Char}

/-! ## Blanks -/

/-- A character at which blanks end: it is none, and starts no comment either. -/
def Solid (c : Char) : Prop := isBlank c = false ∧ c ≠ '/'

instance (c : Char) : Decidable (Solid c) := inferInstanceAs (Decidable (_ ∧ _))

theorem skip_blank (blank : isBlank c = true) : skip (c :: rest) = skip rest := by
  simp [skip, skipSteps, blank]

theorem skip_solid (solid : Solid c) : skip (c :: rest) = some (c :: rest) := by
  simp [skip, skipSteps, solid.1, solid.2]

theorem expect_solid (solid : Solid c) : expect c (c :: rest) = some rest := by
  simp [expect, skip_solid solid]

theorem skipComma_comma : skipComma (',' :: rest) = (skip rest).map fun cs => (true, cs) := by
  have solid : Solid ',' := by decide
  rw [skipComma, skip_solid solid]
  simp only [Option.bind_eq_bind, Option.bind_some]
  cases skip rest with
  | none => rfl
  | some behind => rfl

theorem skipComma_solid (solid : Solid c) (other : c ≠ ',') :
    skipComma (c :: rest) = some (false, c :: rest) := by
  rw [skipComma, skip_solid solid]
  simp [other]

/-! ## Escapes by code point -/

theorem hexValue?_hexDigit {n : Nat} (digit : n < 16) : hexValue? (Text.hexDigit n) = some n := by
  revert n
  decide

/-- How many numbers some digits in base sixteen can write. -/
def hexRange (digits : Nat) : Nat := 1 <<< (4 * digits)

theorem hexRange_succ (digits : Nat) : hexRange (digits + 1) = 16 * hexRange digits := by
  rw [hexRange, hexRange, Nat.mul_succ]
  simp only [Nat.shiftLeft_succ]
  omega

theorem hexDigit_ne_brace {n : Nat} (digit : n < 16) : Text.hexDigit n ≠ '\x7d' := by
  intro brace
  have value := hexValue?_hexDigit digit
  rw [brace] at value
  contradiction

theorem readCode_hexDigit {digits code n : Nat} (digit : n < 16) :
    readCode (digits + 1) code (Text.hexDigit n :: rest) =
      readCode digits (code * 16 + n) rest := by
  rw [readCode, hexValue?_hexDigit digit]
  · rfl
  · exact fun brace => absurd brace (hexDigit_ne_brace digit)

theorem readCode_hexDigitsUpTo {count n : Nat} (fits : n < hexRange count) (more : Nat) :
    readCode (more + (Text.hexDigitsUpTo count n).length) 0 (Text.hexDigitsUpTo count n ++ rest) =
      readCode more n rest := by
  induction count generalizing n more rest with
  | zero =>
    have zero : n = 0 := by simpa [hexRange] using fits
    simp [Text.hexDigitsUpTo, zero]
  | succ count ih =>
    rw [Text.hexDigitsUpTo]
    split_ifs with small
    · rw [List.length_singleton, List.singleton_append, readCode_hexDigit small, Nat.zero_mul,
        Nat.zero_add]
    · have fewer : n / 16 < hexRange count := by
        rw [hexRange_succ] at fits
        omega
      have last : n % 16 < 16 := Nat.mod_lt _ (by decide)
      have whole : n / 16 * 16 + n % 16 = n := Nat.div_add_mod' n 16
      rw [List.length_append, List.append_assoc, List.length_singleton, List.singleton_append,
        ← Nat.add_assoc, Nat.add_right_comm, ih fewer, readCode_hexDigit last, whole]

theorem length_hexDigitsUpTo_le {digits n : Nat} (positive : 0 < digits)
    (fits : n < hexRange digits) (count : Nat) :
    (Text.hexDigitsUpTo count n).length ≤ digits := by
  induction count generalizing digits n with
  | zero => exact Nat.zero_le _
  | succ count ih =>
    obtain ⟨digits, rfl⟩ := Nat.exists_eq_succ_of_ne_zero (Nat.ne_of_gt positive)
    rw [hexRange_succ] at fits
    rw [Text.hexDigitsUpTo]
    split_ifs with small
    · exact Nat.le_add_left ..
    · have further : 0 < digits := by
        rcases Nat.eq_zero_or_pos digits with rfl | further
        · have : hexRange 0 = 1 := rfl
          omega
        · exact further
      simpa using ih further (by omega)

theorem readCode_hexDigits (c : Char) :
    readCode 6 0 (Text.hexDigits c.toNat ++ '\x7d' :: rest) = some (c.toNat, rest) := by
  have range : c.toNat < 1114112 := by
    rcases c.valid with low | high
    · exact Nat.lt_trans low (by decide)
    · exact high.2
  have short : (Text.hexDigits c.toNat).length ≤ 6 :=
    length_hexDigitsUpTo_le (by decide) (Nat.lt_trans range (by decide)) 8
  obtain ⟨more, room⟩ := Nat.exists_eq_add_of_le' short
  rw [room, Text.hexDigits, readCode_hexDigitsUpTo (Nat.lt_trans range (by decide)), readCode]

theorem hexDigitsUpTo_cons (count n : Nat) :
    ∃ first more, first < 16 ∧ Text.hexDigitsUpTo (count + 1) n = Text.hexDigit first :: more := by
  induction count generalizing n with
  | zero =>
    rw [Text.hexDigitsUpTo]
    split_ifs with small
    · exact ⟨n, [], small, rfl⟩
    · exact ⟨n % 16, [], Nat.mod_lt _ (by decide), rfl⟩
  | succ count ih =>
    rw [Text.hexDigitsUpTo]
    split_ifs with small
    · exact ⟨n, [], small, rfl⟩
    · obtain ⟨first, more, digit, written⟩ := ih (n / 16)
      exact ⟨first, more ++ [Text.hexDigit (n % 16)], digit, by rw [written, List.cons_append]⟩

theorem charOf?_toNat (c : Char) : charOf? c.toNat = some c :=
  (if_pos c.valid).trans (congrArg some (Char.ofNat_toNat c))

theorem readUnicode_hexDigits (c : Char) :
    readUnicode ('\x7b' :: (Text.hexDigits c.toNat ++ '\x7d' :: rest)) = some (c, rest) := by
  obtain ⟨first, more, digit, written⟩ := hexDigitsUpTo_cons 7 c.toNat
  have read : readCode 6 0 (Text.hexDigits c.toNat ++ '\x7d' :: rest) = some (c.toNat, rest) :=
    readCode_hexDigits c
  rw [Text.hexDigits, written, List.cons_append] at read ⊢
  rw [readUnicode, read]
  · simp [charOf?_toNat]
  · exact fun _ brace => absurd (List.cons.inj brace).1 (hexDigit_ne_brace digit)

/-! ## Strings -/

variable {content : Content} {steps : Nat}

/-- An escape gives what it stands for, and the string goes on behind it. -/
theorem readQuoted_backslash (stands : readBackslash content cs = some ([c], rest)) :
    readQuoted content (steps + 1) ('\\' :: cs) =
      (readQuoted content steps rest).map fun (text, rest) => (c :: text, rest) := by
  rw [readQuoted, stands]
  simp only [Option.bind_eq_bind, Option.bind_some]
  cases readQuoted content steps rest with
  | none => rfl
  | some read => rfl

theorem readQuoted_plain (quote : c ≠ '"') (backslash : c ≠ '\\') :
    readQuoted content (steps + 1) (c :: cs) =
      (readQuoted content steps cs).map fun (text, rest) => (c :: text, rest) := by
  rw [readQuoted]
  · cases readQuoted content steps cs with
    | none => rfl
    | some read => rfl
  · exact fun same => absurd same quote
  · exact fun same => absurd same backslash

theorem readBackslash_escapeCode (c : Char) :
    readBackslash .text ((Text.escapeCode c).tail ++ rest) = some ([c], rest) := by
  have read : readUnicode ('\x7b' :: (Text.hexDigits c.toNat ++ '\x7d' :: rest)) = some (c, rest) :=
    readUnicode_hexDigits c
  simp [Text.escapeCode, readBackslash, readEscape, read]

/-- Whatever a character is written as between quotes, it is that character that is read. -/
theorem readQuoted_escapeChar (single : Bool) (c : Char) :
    readQuoted .text (steps + 1) (Text.escapeChar single c ++ cs) =
      (readQuoted .text steps cs).map fun (text, rest) => (c :: text, rest) := by
  unfold Text.escapeChar
  split_ifs with zero tab ret line backslash quote apostrophe escaped hidden
  -- most of the characters here have an escape of one letter
  any_goals (subst c; exact readQuoted_backslash rfl)
  · rw [apostrophe]
    exact readQuoted_plain (by decide) (by decide)
  · exact readQuoted_backslash (readBackslash_escapeCode c)
  · exact readQuoted_plain quote backslash

theorem readQuoted_flatMap (single : Bool) (text : List Char) (enough : text.length < steps) :
    readQuoted .text steps (text.flatMap (Text.escapeChar single) ++ '"' :: rest) =
      some (text, rest) := by
  induction text generalizing steps with
  | nil =>
    obtain ⟨steps, rfl⟩ := Nat.exists_eq_succ_of_ne_zero (Nat.ne_of_gt enough)
    rfl
  | cons c text ih =>
    obtain ⟨steps, rfl⟩ := Nat.exists_eq_succ_of_ne_zero (Nat.ne_of_gt (Nat.zero_lt_of_lt enough))
    rw [List.flatMap_cons, List.append_assoc, readQuoted_escapeChar,
      ih (Nat.lt_of_succ_lt_succ enough)]
    rfl

theorem length_le_flatMap {α β : Type} {f : α → List β} (nonempty : ∀ a, f a ≠ []) (l : List α) :
    l.length ≤ (l.flatMap f).length := by
  induction l with
  | nil => exact Nat.le_refl _
  | cons a l ih =>
    have first := List.length_pos_iff.mpr (nonempty a)
    rw [List.flatMap_cons, List.length_append, List.length_cons]
    omega

theorem escapeChar_ne_nil (single : Bool) (c : Char) : Text.escapeChar single c ≠ [] := by
  unfold Text.escapeChar
  split_ifs <;> simp [Text.escapeCode]

/-- A quoted string is read as what was quoted, whatever follows it. -/
theorem readString_quote (single : Bool) (s : String) :
    readString ((Text.quote single s).toList ++ rest) = some (s.toList, rest) := by
  have enough : s.toList.length <
      (s.toList.flatMap (Text.escapeChar single) ++ '"' :: rest).length + 1 := by
    have longer := length_le_flatMap (escapeChar_ne_nil single) s.toList
    rw [List.length_append]
    omega
  have quoted : (Text.quote single s).toList ++ rest =
      '"' :: (s.toList.flatMap (Text.escapeChar single) ++ '"' :: rest) := by
    simp [Text.quote]
  rw [quoted, readString, readQuoted_flatMap single s.toList enough]

/-! ## Words -/

/-- A text does not go on with characters of a kind. -/
def Stops (kind : Char → Bool) (rest : List Char) : Prop := ∀ c ∈ rest.head?, kind c = false

theorem stops_cons {kind : Char → Bool} (other : kind c = false) : Stops kind (c :: rest) := by
  simpa [Stops] using other

theorem span_append {kind : Char → Bool} (all : ∀ c ∈ word, kind c = true)
    (stops : Stops kind rest) : (word ++ rest).span kind = (word, rest) := by
  have behind : rest.takeWhile kind = [] ∧ rest.dropWhile kind = rest := by
    cases rest with
    | nil => exact ⟨rfl, rfl⟩
    | cons c rest =>
      have other : kind c = false := stops c rfl
      simp [other]
  rw [List.span_eq_takeWhile_dropWhile, List.takeWhile_append_of_pos all,
    List.dropWhile_append_of_pos all, behind.1, behind.2, List.append_nil]

theorem toNat_lt_of_isDigitMark (mark : isDigitMark c = true) : c.toNat < 103 := by
  rw [isDigitMark, Bool.or_eq_true, decide_eq_true_eq] at mark
  rcases mark with digit | rfl
  · unfold hexValue? at digit
    split_ifs at digit with decimal lower upper
    · have range := (Char.isDigit_iff_toNat.mp decimal).2
      exact Nat.lt_of_le_of_lt range (by decide)
    · rw [Bool.and_eq_true, decide_eq_true_eq, decide_eq_true_eq] at lower
      exact Nat.lt_of_le_of_lt lower.2 (by decide)
    · rw [Bool.and_eq_true, decide_eq_true_eq, decide_eq_true_eq] at upper
      exact Nat.lt_of_le_of_lt upper.2 (by decide)
    · contradiction
  · decide

/-- Whatever may be a digit is a character of words too. -/
theorem continues_of_isDigitMark (mark : isDigitMark c = true) :
    Text.continuesIdentifier c = true := by
  have all : ∀ n < 103, isDigitMark (Char.ofNat n) = true →
      Text.continuesIdentifier (Char.ofNat n) = true := by decide
  have found := all c.toNat (toNat_lt_of_isDigitMark mark)
  rw [Char.ofNat_toNat] at found
  exact found mark

theorem Stops.digits (stops : Stops Text.continuesIdentifier rest) : Stops isDigitMark rest := by
  intro c head
  by_contra mark
  have goesOn := continues_of_isDigitMark (Bool.of_not_eq_false mark)
  rw [stops c head] at goesOn
  exact Bool.false_ne_true goesOn

theorem readPlain?_word (starts : Text.startsIdentifier c = true)
    (goesOn : word.all Text.continuesIdentifier = true)
    (stops : Stops Text.continuesIdentifier rest) :
    readPlain? (c :: (word ++ rest)) = some (⟨c :: word, false⟩, rest) := by
  rw [readPlain?, if_pos starts, span_append (List.all_eq_true.mp goesOn) stops]

/-- A word at the front of a text is a plain name there: it is an identifier, and not the opening of
a literal. -/
structure PlainWord (c : Char) (word : List Char) : Prop where
  starts : Text.startsIdentifier c = true
  goesOn : word.all Text.continuesIdentifier = true
  bytes : c ≠ 'b'
  raw : c ≠ 'r'
  solid : Solid c

theorem readName?_plain (bytes : c ≠ 'b') (raw : c ≠ 'r') :
    readName? (c :: cs) = readPlain? (c :: cs) := by
  have unmarked : literalMarks.any (·.isPrefixOf (c :: cs)) = false := by
    simp [literalMarks, List.isPrefixOf, beq_false_of_ne bytes.symm, beq_false_of_ne raw.symm]
  rw [readName?, unmarked, if_neg Bool.false_ne_true]
  exact fun _ same => absurd (List.cons.inj same).1 raw

theorem readName?_word (plain : PlainWord c word) (stops : Stops Text.continuesIdentifier rest) :
    readName? (c :: (word ++ rest)) = some (⟨c :: word, false⟩, rest) := by
  rw [readName?_plain plain.bytes plain.raw]
  exact readPlain?_word plain.starts plain.goesOn stops

/-! ## Numbers -/

theorem hexValue?_digit (digit : c.isDigit = true) :
    hexValue? c = some (c.toNat - '0'.toNat) ∧ c.toNat - '0'.toNat < 10 := by
  have upper : c.toNat ≤ 57 := (Char.isDigit_iff_toNat.mp digit).2
  refine ⟨if_pos digit, ?_⟩
  change c.toNat - 48 < 10
  omega

theorem isDigitMark_of_isDigit (digit : c.isDigit = true) : isDigitMark c = true := by
  simp [isDigitMark, hexValue?_digit digit]

theorem digitsValue_ten (value : Nat) {digits : List Char} (all : ∀ c ∈ digits, c.isDigit = true) :
    digitsValue 10 value digits = some (Nat.ofDigitChars 10 digits value) := by
  induction digits generalizing value with
  | nil => simp [digitsValue]
  | cons c digits ih =>
    obtain ⟨first, others⟩ := List.forall_mem_cons.mp all
    obtain ⟨digit, small⟩ := hexValue?_digit first
    have mark : c ≠ '_' := by
      rintro rfl
      contradiction
    rw [digitsValue, if_neg mark, digit, Nat.ofDigitChars_cons, Nat.mul_comm 10, ← ih _ others]
    exact if_pos small

/-- No letter stands in front of the digits of a word, nor right behind the word. -/
theorem digits_ne {letter : Char} (digits : ∀ d ∈ word, d.isDigit = true)
    (stops : Stops Text.continuesIdentifier rest) (other : letter.isDigit = false)
    (goesOn : Text.continuesIdentifier letter = true) : word ++ rest ≠ letter :: cs := by
  intro same
  cases word with
  | nil =>
    have head : letter ∈ rest.head? := by
      rw [show rest = letter :: cs from same]
      rfl
    have ends := stops letter head
    rw [goesOn] at ends
    exact Bool.false_ne_true ends.symm
  | cons d word =>
    have first := digits d List.mem_cons_self
    rw [(List.cons.inj same).1, other] at first
    exact Bool.false_ne_true first

theorem readSign_digit (digit : c.isDigit = true) : readSign (c :: cs) = (false, c :: cs) := by
  unfold readSign
  split <;> simp_all

theorem readBase_digits (digits : ∀ d ∈ word, d.isDigit = true)
    (stops : Stops Text.continuesIdentifier rest) :
    readBase (c :: (word ++ rest)) = (10, c :: (word ++ rest)) := by
  unfold readBase
  split
  next same => exact absurd (List.cons.inj same).2 (digits_ne digits stops (by decide) (by decide))
  next same => exact absurd (List.cons.inj same).2 (digits_ne digits stops (by decide) (by decide))
  next same => exact absurd (List.cons.inj same).2 (digits_ne digits stops (by decide) (by decide))
  next => rfl

theorem solid_of_isDigit (digit : c.isDigit = true) : Solid c := by
  have range : 48 ≤ c.toNat ∧ c.toNat ≤ 57 := Char.isDigit_iff_toNat.mp digit
  have other {d : Char} (outside : d.toNat < 48 ∨ 57 < d.toNat) : c ≠ d := by
    rintro rfl
    omega
  constructor
  · have late : ¬c ≤ '\r' := by
      rw [Char.le_def, UInt32.le_iff_toNat_le]
      change ¬c.toNat ≤ 13
      omega
    simp [isBlank, late, other]
  · exact other (by decide)

/-- Decimal digits are read as the number they write. -/
theorem readInteger_digits {n : Nat} (stops : Stops Text.continuesIdentifier rest) :
    readInteger (Nat.toDigits 10 n ++ rest) = some (⟨false, n, []⟩, rest) := by
  have digits : ∀ c ∈ Nat.toDigits 10 n, c.isDigit = true := fun c member =>
    Nat.isDigit_of_mem_toDigits (by decide) (by decide) member
  have value := digitsValue_ten 0 digits
  rw [Nat.ofDigitChars_ten_toDigits] at value
  generalize Nat.toDigits 10 n = ds, @Nat.toDigits_ne_nil n 10 = nonempty at digits value ⊢
  obtain ⟨first, more, rfl⟩ := List.exists_cons_of_ne_nil nonempty
  have lead : first.isDigit = true := digits first List.mem_cons_self
  have mark : first ≠ '_' := by
    rintro rfl
    contradiction
  have taken : (first :: more ++ rest).span isDigitMark = (first :: more, rest) :=
    span_append (fun c member => isDigitMark_of_isDigit (digits c member)) stops.digits
  have unnamed : rest.span Text.continuesIdentifier = ([], rest) :=
    span_append (List.forall_mem_nil _) stops
  rw [List.cons_append] at taken ⊢
  rw [readInteger, readSign_digit lead]
  dsimp only
  rw [readBase_digits (fun c member => digits c (List.mem_cons_of_mem _ member)) stops]
  dsimp only
  rw [taken]
  dsimp only
  rw [if_neg (by simp [mark]), value, Option.bind_eq_bind, Option.bind_some, unnamed]
  rfl

/-- A number that its type can hold is read back from its decimal digits. -/
theorem readWord_toString {bits n : Nat} (fits : n < 1 <<< bits)
    (stops : Stops Text.continuesIdentifier rest) :
    readWord bits ((toString n).toList ++ rest) = some (n, rest) := by
  rw [Nat.toString_eq_ofList_toDigits, String.toList_ofList, readWord, readInteger_digits stops]
  simp [fits]

theorem toString_cons (n : Nat) : ∃ c more, (toString n).toList = c :: more ∧ Solid c := by
  obtain ⟨c, more, written⟩ := List.exists_cons_of_ne_nil (@Nat.toDigits_ne_nil n 10)
  have digit : c.isDigit = true :=
    Nat.isDigit_of_mem_toDigits (by decide) (by decide) (written ▸ List.mem_cons_self)
  rw [Nat.toString_eq_ofList_toDigits, String.toList_ofList]
  exact ⟨c, more, written, solid_of_isDigit digit⟩

end TileEngine.Ron
