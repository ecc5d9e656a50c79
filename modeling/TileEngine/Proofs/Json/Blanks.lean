import TileEngine.Json.Reader
import Mathlib.Data.List.TakeDrop

/-!
Blanks in front of a document. A document starts at its first byte that is no blank, so blanks in
front of it do not matter to what is read. They make it longer, and so allow the reader more steps;
but what has been read in some steps is read in more as well.
-/

namespace TileEngine.Json

/-- One reader gives all that another one gives. -/
def Extends {α β : Type} (more less : α → Option β) : Prop :=
  ∀ a b, less a = some b → more a = some b

theorem Extends.bind {α β γ : Type} {more less : α → Option β} (all : Extends more less) {a : α}
    {f : β → Option γ} {c : γ} (given : (less a).bind f = some c) : (more a).bind f = some c := by
  obtain ⟨b, read, further⟩ := Option.bind_eq_some_iff.mp given
  rw [all a b read]
  exact further

variable {more less : Nat}

theorem readValue_extends (items : Extends (readItems more) (readItems less))
    (members : Extends (readMembers more) (readMembers less)) :
    Extends (readValue (more + 1)) (readValue (less + 1)) := by
  intro bytes r read
  rw [readValue] at read ⊢
  generalize skipBlanks bytes = start at read ⊢
  cases start with
  | nil => exact read
  | cons b rest =>
    dsimp only at read ⊢
    split_ifs at read ⊢ with quote bracket brace
    · exact read
    · generalize skipBlanks rest = inside at read ⊢
      split at read
      · exact read
      · exact items.bind read
    · generalize skipBlanks rest = inside at read ⊢
      split at read
      · exact read
      · exact members.bind read
    all_goals exact read

theorem readItems_extends (value : Extends (readValue more) (readValue less))
    (items : Extends (readItems more) (readItems less)) :
    Extends (readItems (more + 1)) (readItems (less + 1)) := by
  intro bytes r read
  rw [readItems] at read ⊢
  obtain ⟨⟨item, rest⟩, first, others⟩ := Option.bind_eq_some_iff.mp read
  refine Option.bind_eq_some_iff.mpr ⟨(item, rest), value _ _ first, ?_⟩
  dsimp only at others ⊢
  generalize skipBlanks rest = behind at others ⊢
  split at others
  · exact others
  · exact items.bind others
  · contradiction

theorem readMembers_extends (value : Extends (readValue more) (readValue less))
    (members : Extends (readMembers more) (readMembers less)) :
    Extends (readMembers (more + 1)) (readMembers (less + 1)) := by
  intro bytes r read
  rw [readMembers] at read ⊢
  generalize skipBlanks bytes = start at read ⊢
  split at read
  · obtain ⟨⟨key, rest⟩, name, member⟩ := Option.bind_eq_some_iff.mp read
    refine Option.bind_eq_some_iff.mpr ⟨(key, rest), name, ?_⟩
    dsimp only at member ⊢
    generalize skipBlanks rest = colon at member ⊢
    split at member
    · obtain ⟨⟨item, rest⟩, first, others⟩ := Option.bind_eq_some_iff.mp member
      refine Option.bind_eq_some_iff.mpr ⟨(item, rest), value _ _ first, ?_⟩
      dsimp only at others ⊢
      generalize skipBlanks rest = behind at others ⊢
      split at others
      · exact others
      · exact members.bind others
      · contradiction
    · contradiction
  · contradiction

/-- Each step more gives at least what there was. -/
theorem extends_succ (n : Nat) :
    Extends (readValue (n + 1)) (readValue n) ∧ Extends (readItems (n + 1)) (readItems n) ∧
      Extends (readMembers (n + 1)) (readMembers n) := by
  induction n with
  | zero => exact ⟨nofun, nofun, nofun⟩
  | succ n ih =>
    obtain ⟨value, items, members⟩ := ih
    exact ⟨readValue_extends items members, readItems_extends value items,
      readMembers_extends value members⟩

theorem readValue_of_le (le : less ≤ more) : Extends (readValue more) (readValue less) := by
  induction le with
  | refl => exact fun _ _ read => read
  | step _ ih => exact fun bytes r read => (extends_succ _).1 bytes r (ih bytes r read)

/-! ## What stands in front -/

variable {blanks bytes : List UInt8}

theorem skipBlanks_append (white : ∀ b ∈ blanks, isBlank b = true) (bytes : List UInt8) :
    skipBlanks (blanks ++ bytes) = skipBlanks bytes :=
  List.dropWhile_append_of_pos white

/-- Blanks in front do not matter to a document. -/
theorem readDocument_append {v : Value} (white : ∀ b ∈ blanks, isBlank b = true)
    (read : readDocument bytes = some v) : readDocument (blanks ++ bytes) = some v := by
  have same (steps : Nat) : readValue steps (blanks ++ bytes) = readValue steps bytes := by
    cases steps with
    | zero => rw [readValue, readValue]
    | succ steps => rw [readValue, readValue, skipBlanks_append white]
  have longer : 2 * bytes.length + 2 ≤ 2 * (blanks ++ bytes).length + 2 := by
    rw [List.length_append]
    omega
  unfold readDocument at read ⊢
  rw [same]
  split at read
  · rename_i value rest found
    rw [readValue_of_le longer _ _ found]
    exact read
  · contradiction

/-- A byte that a value can start with: a quote, an opening bracket, the first letter of a word, a
minus sign or a digit. -/
def startsValue (b : UInt8) : Bool :=
  b == 0x22 || b == 0x5B || b == 0x7B || b == 0x6E || b == 0x74 || b == 0x66 || b == 0x2D ||
    isDigit b

theorem readNumber_eq_none {b : UInt8} (sign : b ≠ 0x2D) (digit : isDigit b = false)
    (rest : List UInt8) : readNumber (b :: rest) = none := by
  have no_digits : someDigits? (b :: rest) = none := by
    rw [someDigits?, List.span_eq_takeWhile_dropWhile, List.takeWhile_cons, digit]
    rfl
  unfold readNumber
  split
  rename_i parts
  split at parts
  · rename_i same
    exact absurd (List.cons.inj same).1 sign
  · cases parts
    rw [no_digits]
    rfl

/-- A document starts with a value. -/
theorem readDocument_starts {v : Value} (read : readDocument bytes = some v) :
    ∃ b rest, skipBlanks bytes = b :: rest ∧ startsValue b = true := by
  unfold readDocument at read
  split at read
  · rename_i value rest found
    rw [readValue] at found
    cases start : skipBlanks bytes with
    | nil => rw [start] at found; contradiction
    | cons b rest =>
      refine ⟨b, rest, rfl, ?_⟩
      rw [start] at found
      by_contra other
      simp only [startsValue, Bool.or_eq_true, not_or] at other
      obtain ⟨⟨⟨⟨⟨⟨⟨quote, bracket⟩, brace⟩, n⟩, t⟩, f⟩, sign⟩, digit⟩ := other
      dsimp only at found
      rw [if_neg quote, if_neg bracket, if_neg brace, if_neg n, if_neg t, if_neg f,
        readNumber_eq_none (by simpa using sign) (by simpa using digit)] at found
      contradiction
  · contradiction

end TileEngine.Json
