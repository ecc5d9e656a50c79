import TileEngine.ByteStream.Basic
import Mathlib.Tactic.Common

/-!
The contract of byte streams, and that files and memory are interchangeable under it. A stream
over some bytes has one state for each position; a move goes to any position up to the end, an
exact read gives the bytes from the position on or fails and stays. Streams over memory meet
this contract, and so do streams over a file that nobody else changes: their position and the
cursor of the file move together. Lines, looks ahead and reads to the end are made of moves and
reads, so two streams that meet the contract for the same bytes answer every run of calls alike.
-/

namespace TileEngine

namespace ByteStream

/-! ## Calls and what is seen of them -/

/-- What may be asked of a stream. -/
inductive Call where
  | seek (position : Nat)
  | read (count : Nat)
  | peek (count : Nat)
  | readToEnd
  | readLine (max : Nat)

/-- What a call gives when it is not refused. -/
inductive Answer where
  | moved
  | bytes (content : Array UInt8)
  | line (text : String)

/-- What a caller sees after a call: the answer or the refusal, and what the stream says of
itself. -/
structure Report where
  answer : Except StreamError Answer
  position : Nat
  size : Nat
  remaining : Nat
  atEnd : Bool

/-- A result as an answer. -/
def answering {α : Type} (f : α → Answer) (r : Except StreamError α × ByteStream) :
    Except StreamError Answer × ByteStream :=
  (r.1.map f, r.2)

/-- The answer to a call, and the stream after it. -/
def call (s : ByteStream) : Call → Except StreamError Answer × ByteStream
  | .seek position => answering (fun _ => .moved) (s.seek position)
  | .read count => answering .bytes (s.read count)
  | .peek count => answering .bytes (s.peek count)
  | .readToEnd => answering .bytes s.readToEnd
  | .readLine max => answering .line (s.readLine max)

/-- What is seen of an answer and of the stream after it. -/
def reportOf (r : Except StreamError Answer × ByteStream) : Report :=
  ⟨r.1, r.2.position, r.2.size, r.2.remaining, r.2.atEnd⟩

/-- What is seen of calls one after the other. -/
def reports : ByteStream → List Call → List Report
  | _, [] => []
  | s, c :: rest => reportOf (s.call c) :: reports (s.call c).2 rest

/-- The stream after calls one after the other. -/
def after (s : ByteStream) (calls : List Call) : ByteStream :=
  calls.foldl (fun s c => (s.call c).2) s

/-! ## The contract -/

/-- Streams over `data`, one for each position: they know where they are, moves reach every
position up to the end, and reads are exact. A refused call leaves the stream where it was. -/
structure Serves (data : Array UInt8) (place : Nat → ByteStream) : Prop where
  position : ∀ p, (place p).position = p
  size : ∀ p, (place p).size = data.size
  seek : ∀ p q, (place p).seek q =
    if q ≤ data.size then (.ok (), place q) else (.error (.seekOutOfRange q data.size), place p)
  read : ∀ p ≤ data.size, ∀ n, (place p).read n =
    if n ≤ data.size - p then (.ok (data.extract p (p + n)), place (p + n))
    else (.error (.readPastEnd n (data.size - p)), place p)

/-- The stream over memory that holds `data`, at a position. -/
def memoryAt (data : Array UInt8) (p : Nat) : ByteStream := .memory ⟨data, p⟩

/-- The stream over a file that holds `data`, at a position; the cursor of the file is there
too. -/
def fileAt (data : Array UInt8) (p : Nat) : ByteStream := .file ⟨⟨some data, p⟩, data.size, p⟩

theorem serves_memory (data : Array UInt8) : Serves data (memoryAt data) := by
  refine ⟨fun _ => rfl, fun _ => rfl, ?_, ?_⟩
  · intro p q
    by_cases inside : q ≤ data.size
    · simp [memoryAt, seek, MemoryStream.seek, inside, Nat.not_lt.mpr inside]
    · simp [memoryAt, seek, MemoryStream.seek, inside, Nat.not_le.mp inside]
  · intro p _ n
    by_cases enough : n ≤ data.size - p
    · simp [memoryAt, read, MemoryStream.read, enough, Nat.not_lt.mpr enough]
    · simp [memoryAt, read, MemoryStream.read, enough, Nat.not_le.mp enough]

/-- A file has what its stream expects of it: a read that the stream allows does not fail. -/
theorem readExact_inside {data : Array UInt8} {p n : Nat} (inside : p + n ≤ data.size) :
    OpenFile.readExact ⟨some data, p⟩ n = (.ok (data.extract p (p + n)), ⟨some data, p + n⟩) := by
  by_cases nothing : n = 0
  · subst nothing
    have none : data.extract p (p + 0) = #[] :=
      Array.extract_empty_of_stop_le_start (Nat.le_refl p)
    rw [none]
    rfl
  · simp [OpenFile.readExact, nothing, inside]

theorem serves_file (data : Array UInt8) : Serves data (fileAt data) := by
  refine ⟨fun _ => rfl, fun _ => rfl, ?_, ?_⟩
  · intro p q
    by_cases inside : q ≤ data.size
    · simp [fileAt, seek, FileStream.seek, OpenFile.seek, inside, Nat.not_lt.mpr inside]
    · simp [fileAt, seek, FileStream.seek, inside, Nat.not_le.mp inside]
  · intro p le n
    by_cases enough : n ≤ data.size - p
    · have inside : p + n ≤ data.size := by omega
      simp [fileAt, read, FileStream.read, readExact_inside inside, enough, Nat.not_lt.mpr enough]
    · simp [fileAt, read, FileStream.read, enough, Nat.not_le.mp enough]

/-! ## Two streams that meet the contract -/

section

variable {α : Type} {data : Array UInt8} {f m : Nat → ByteStream} {p : Nat}

/-- Two outcomes with the same answer that leave both streams at one position, which is inside
the data. -/
def Alike (data : Array UInt8) (f m : Nat → ByteStream) (x y : Except StreamError α × ByteStream) :
    Prop :=
  x.1 = y.1 ∧ ∃ p ≤ data.size, x.2 = f p ∧ y.2 = m p

theorem Alike.answering {x y : Except StreamError α × ByteStream} (h : Alike data f m x y)
    (g : α → Answer) : Alike data f m (answering g x) (answering g y) := by
  obtain ⟨same, place⟩ := h
  refine ⟨?_, place⟩
  simp only [ByteStream.answering, same]

/-- Outcomes that are alike are reported alike. -/
theorem Alike.reportOf_eq {x y : Except StreamError Answer × ByteStream} (hf : Serves data f)
    (hm : Serves data m) (h : Alike data f m x y) : reportOf x = reportOf y := by
  obtain ⟨same, p, -, xp, yp⟩ := h
  simp only [reportOf, same, xp, yp, remaining, atEnd, hf.position, hm.position, hf.size, hm.size]

variable (hf : Serves data f) (hm : Serves data m) (inside : p ≤ data.size)

include hf in
theorem Serves.remaining (p : Nat) : (f p).remaining = data.size - p := by
  rw [ByteStream.remaining, hf.size, hf.position]

include hf hm inside

theorem alike_seek (q : Nat) : Alike data f m ((f p).seek q) ((m p).seek q) := by
  rw [hf.seek, hm.seek]
  by_cases reached : q ≤ data.size
  · rw [if_pos reached, if_pos reached]
    exact ⟨rfl, q, reached, rfl, rfl⟩
  · rw [if_neg reached, if_neg reached]
    exact ⟨rfl, p, inside, rfl, rfl⟩

theorem alike_read (n : Nat) : Alike data f m ((f p).read n) ((m p).read n) := by
  rw [hf.read p inside, hm.read p inside]
  by_cases enough : n ≤ data.size - p
  · rw [if_pos enough, if_pos enough]
    exact ⟨rfl, p + n, by omega, rfl, rfl⟩
  · rw [if_neg enough, if_neg enough]
    exact ⟨rfl, p, inside, rfl, rfl⟩

theorem alike_readToEnd : Alike data f m (f p).readToEnd (m p).readToEnd := by
  rw [readToEnd, readToEnd, hf.remaining, hm.remaining]
  exact alike_read hf hm inside _

omit hm in
/-- A look ahead gives what is there, up to the count, and goes back. -/
theorem peek_eq (n : Nat) :
    (f p).peek n = (.ok (data.extract p (p + min n (data.size - p))), f p) := by
  have enough : min n (data.size - p) ≤ data.size - p := Nat.min_le_right _ _
  simp only [peek, hf.remaining, hf.position, hf.read p inside, if_pos enough, hf.seek,
    if_pos inside]

omit hm in
/-- A read to the end gives the rest. -/
theorem readToEnd_eq : (f p).readToEnd = (.ok (data.extract p data.size), f data.size) := by
  rw [readToEnd, hf.remaining, hf.read p inside, if_pos (Nat.le_refl _),
    Nat.add_sub_of_le inside]

/-- The bytes of a line are read one by one; each read finds both streams at one place. -/
theorem alike_collectLine (steps max : Nat) (line : Array UInt8) :
    Alike data f m (collectLine steps max line (f p)) (collectLine steps max line (m p)) := by
  induction steps generalizing p line with
  | zero => exact ⟨rfl, p, inside, rfl, rfl⟩
  | succ steps ih =>
    have more : (f p).atEnd = (m p).atEnd := by rw [atEnd, atEnd, hf.remaining, hm.remaining]
    rw [collectLine, collectLine, more]
    by_cases goes : (line.size < max && !(m p).atEnd) = true
    · rw [if_pos goes, if_pos goes]
      have enough : data.size - p ≠ 0 := by
        have left := (Bool.and_eq_true_iff.mp goes).2
        rw [atEnd, hm.remaining] at left
        simpa using left
      have further : p + 1 ≤ data.size := by omega
      rw [hf.read p inside, hm.read p inside, if_pos (by omega), if_pos (by omega)]
      dsimp only
      split
      · exact ⟨rfl, p + 1, further, rfl, rfl⟩
      · exact ih further line
      · exact ih further _
      · exact ⟨rfl, p + 1, further, rfl, rfl⟩
    · rw [if_neg goes, if_neg goes]
      exact ⟨rfl, p, inside, rfl, rfl⟩

theorem alike_readLine (max : Nat) : Alike data f m ((f p).readLine max) ((m p).readLine max) := by
  have bytes := alike_collectLine hf hm inside (data.size - p) max #[]
  simp only [readLine, readLineBytes, hf.remaining, hm.remaining]
  exact ⟨by rw [bytes.1], bytes.2⟩

/-- Every call is answered alike, and leaves both streams at one place. -/
theorem alike_call (c : Call) : Alike data f m ((f p).call c) ((m p).call c) := by
  cases c with
  | seek q => exact (alike_seek hf hm inside q).answering _
  | read n => exact (alike_read hf hm inside n).answering _
  | peek n =>
    apply Alike.answering
    rw [peek_eq hf inside, peek_eq hm inside]
    exact ⟨rfl, p, inside, rfl, rfl⟩
  | readToEnd => exact (alike_readToEnd hf hm inside).answering _
  | readLine max => exact (alike_readLine hf hm inside max).answering _

/-- Every run of calls is reported alike, and leaves both streams at one place. -/
theorem alike_run (calls : List Call) :
    (f p).reports calls = (m p).reports calls ∧
      ∃ q ≤ data.size, (f p).after calls = f q ∧ (m p).after calls = m q := by
  induction calls generalizing p with
  | nil => exact ⟨rfl, p, inside, rfl, rfl⟩
  | cons c rest ih =>
    have first := alike_call hf hm inside c
    have reported := first.reportOf_eq hf hm
    obtain ⟨-, q, reached, fq, mq⟩ := first
    obtain ⟨later, places⟩ := ih reached
    rw [after, after, List.foldl_cons, List.foldl_cons, reports, reports, reported, fq, mq, later]
    exact ⟨rfl, places⟩

end

/-- A stream over a file that nobody else changes and a stream over memory with the same bytes
are interchangeable: in every run of calls both give the same answers and the same refusals, and
report the same position, size, rest and end after every call. Whatever was called, both are at
one position, which is inside the bytes; the cursor of the file is there too; and the next exact
read gives the bytes from there on, or is refused and says how many there are. -/
theorem file_eq_memory (data : Array UInt8) (calls : List Call) :
    (file (.ofBytes data)).reports calls = (memory (.ofBytes data)).reports calls ∧
      ∃ p ≤ data.size,
        (file (.ofBytes data)).after calls = .file ⟨⟨some data, p⟩, data.size, p⟩ ∧
        (memory (.ofBytes data)).after calls = .memory ⟨data, p⟩ ∧
        ∀ n, (((file (.ofBytes data)).after calls).read n).1 =
          if n ≤ data.size - p then .ok (data.extract p (p + n))
          else .error (.readPastEnd n (data.size - p)) := by
  have served := serves_file data
  obtain ⟨same, p, inside, on_file, in_memory⟩ :=
    alike_run served (serves_memory data) (Nat.zero_le _) calls
  refine ⟨same, p, inside, on_file, in_memory, fun n => ?_⟩
  have read := served.read p inside n
  change (((fileAt data 0).after calls).read n).1 = _
  rw [on_file, read]
  split <;> rfl

end ByteStream

end TileEngine
