import TileEngine.Proofs.ByteStream.Contract

/-!
Refused calls. The file behind a stream may be cut short at any time, and then reads fail that the
size of the stream allows. A call does nothing to a stream but move it, and a refused one leaves it
as it was: only a line that is cut off has been read as far as there were bytes.
-/

namespace TileEngine

namespace ByteStream

/-- The number of bytes that are really there. -/
def held : ByteStream → Nat
  | .memory m => m.data.size
  | .file f => (f.file.content.map Array.size).getD 0

/-- A stream at another position; the cursor of a file is put there too. -/
def moved : ByteStream → Nat → ByteStream
  | .memory m, p => .memory { m with position := p }
  | .file f, p => .file { f with file := f.file.seek p, position := p }

/-- Whether a call reads a line. -/
def Call.readsLine : Call → Bool
  | .readLine _ => true
  | _ => false

/-- The streams that there are: over some bytes in memory or in a file, or over a directory, after
any calls, the length of the file being set to anything between them. -/
inductive Reached : ByteStream → Prop
  | memory (data : Array UInt8) : Reached (.memory (.ofBytes data))
  | file (data : Array UInt8) : Reached (.file (.ofBytes data))
  | directory : Reached (.file .ofDirectory)
  | call {s : ByteStream} (c : Call) (before : Reached s) : Reached (s.call c).2
  | setLength {s : ByteStream} (length : Nat) (before : Reached s) : Reached (s.setLength length)

/-- A stream is inside its size, and the cursor of its file where the stream is. -/
structure Settled (s : ByteStream) : Prop where
  inside : s.position ≤ s.size
  here : s.moved s.position = s

variable {s : ByteStream} {p q : Nat}

@[simp] theorem position_moved (s : ByteStream) (p : Nat) : (s.moved p).position = p := by
  cases s <;> rfl

@[simp] theorem size_moved (s : ByteStream) (p : Nat) : (s.moved p).size = s.size := by
  cases s <;> rfl

@[simp] theorem held_moved (s : ByteStream) (p : Nat) : (s.moved p).held = s.held := by
  cases s <;> rfl

@[simp] theorem moved_moved (s : ByteStream) (p q : Nat) : (s.moved p).moved q = s.moved q := by
  cases s <;> rfl

theorem settled_moved (inside : p ≤ s.size) : (s.moved p).Settled :=
  ⟨by rwa [position_moved, size_moved], by rw [position_moved, moved_moved]⟩

/-! ## What one call does -/

theorem seek_eq (s : ByteStream) (q : Nat) :
    s.seek q =
      if q ≤ s.size then (.ok (), s.moved q) else (.error (.seekOutOfRange q s.size), s) := by
  cases s with
  | memory m =>
    by_cases inside : q ≤ m.data.size
    · simp [seek, MemoryStream.seek, size, moved, inside, Nat.not_lt.mpr inside]
    · simp [seek, MemoryStream.seek, size, inside, Nat.not_le.mp inside]
  | file f =>
    by_cases inside : q ≤ f.size
    · simp [seek, FileStream.seek, size, moved, inside, Nat.not_lt.mpr inside]
    · simp [seek, FileStream.seek, size, inside, Nat.not_le.mp inside]

/-- A refusal by the file system, which has fewer bytes than the stream. -/
def Cut (s : ByteStream) (e : StreamError) : Prop := s.held < s.size ∧ ∃ cause, e = .io cause

@[simp] theorem cut_moved {e : StreamError} : (s.moved p).Cut e ↔ s.Cut e := by
  rw [Cut, Cut, held_moved, size_moved]

/-- The file system reads on by a count, within the bytes that it has if the count is not zero. It
fails past their end, with a cursor that can be put anywhere again. -/
theorem readExact_cases (f : OpenFile) (n : Nat) :
    (∃ bytes, f.readExact n = (.ok bytes, f.seek (f.cursor + n)) ∧
      (n = 0 ∨ f.cursor + n ≤ (f.content.map Array.size).getD 0)) ∨
    ∃ cause g, f.readExact n = (.error cause, g) ∧ (∀ p, g.seek p = f.seek p) ∧
      (f.content.map Array.size).getD 0 < f.cursor + n := by
  obtain ⟨content, cursor⟩ := f
  by_cases nothing : n = 0
  · subst nothing
    exact .inl ⟨#[], rfl, .inl rfl⟩
  · unfold OpenFile.readExact
    rw [if_neg nothing]
    cases content with
    | none =>
      refine .inr ⟨_, _, rfl, fun _ => rfl, ?_⟩
      change 0 < cursor + n
      omega
    | some bytes =>
      dsimp only
      by_cases enough : cursor + n ≤ bytes.size
      · rw [if_pos enough]
        exact .inl ⟨_, rfl, .inr enough⟩
      · rw [if_neg enough]
        exact .inr ⟨_, _, rfl, fun _ => rfl, Nat.not_le.mp enough⟩

/-- A read goes on by its count, or the stream stays as it is. A read of something goes no further
than there are bytes; one that the size allows fails only where these have come to an end. -/
theorem read_cases (settled : s.Settled) (n : Nat) :
    (∃ bytes, s.read n = (.ok bytes, s.moved (s.position + n)) ∧ s.position + n ≤ s.size ∧
      (n = 0 ∨ s.position + n ≤ s.held)) ∨
    ∃ e, s.read n = (.error e, s) ∧ (n ≤ s.remaining → s.held < s.position + n ∧ s.Cut e) := by
  obtain ⟨inside, here⟩ := settled
  cases s with
  | memory m =>
    change m.position ≤ m.data.size at inside
    by_cases enough : n ≤ m.data.size - m.position
    · have ends : m.position + n ≤ m.data.size := by omega
      refine .inl ⟨m.data.extract m.position (m.position + n), ?_, ends, .inr ends⟩
      simp [read, MemoryStream.read, moved, position, Nat.not_lt.mpr enough]
    · refine .inr ⟨.readPastEnd n (m.data.size - m.position), ?_, fun le => absurd le enough⟩
      simp [read, MemoryStream.read, Nat.not_le.mp enough]
  | file f =>
    change f.position ≤ f.size at inside
    by_cases enough : n ≤ f.size - f.position
    · have ends : f.position + n ≤ f.size := by omega
      have put : f.file.seek f.position = f.file :=
        congrArg FileStream.file (ByteStream.file.inj here)
      have cursor : f.file.cursor = f.position := (congrArg OpenFile.cursor put).symm
      rcases readExact_cases f.file n with ⟨bytes, ok, there⟩ | ⟨cause, g, failed, back, short⟩
      · rw [cursor] at ok there
        refine .inl ⟨bytes, ?_, ends, there⟩
        simp [read, FileStream.read, moved, position, Nat.not_lt.mpr enough, ok]
      · rw [cursor] at short
        refine .inr ⟨.io cause, ?_, fun _ => ⟨short, Nat.lt_of_lt_of_le short ends, cause, rfl⟩⟩
        simp [read, FileStream.read, Nat.not_lt.mpr enough, failed, back, put]
    · refine .inr ⟨.readPastEnd n (f.size - f.position), ?_, fun le => absurd le enough⟩
      simp [read, FileStream.read, Nat.not_le.mp enough]

/-- An outcome has only moved the stream. A refusal has left it where it was, but a line has been
read as far as there are bytes, and is refused only because there are too few. -/
def Moves {α : Type} (s : ByteStream) (line : Bool) (r : Except StreamError α × ByteStream) : Prop :=
  ∃ p ≤ s.size, r.2 = s.moved p ∧ ∀ e, r.1 = .error e →
    (line = false → p = s.position) ∧ (line = true → s.Cut e ∧ p = max s.position s.held)

section

variable {α : Type} {r : Except StreamError α × ByteStream} {line : Bool} {e : StreamError}

theorem Moves.ok (inside : p ≤ s.size) (a : α) : s.Moves line (.ok a, s.moved p) := by
  refine ⟨p, inside, rfl, ?_⟩
  intro e same
  contradiction

theorem Moves.stayed (settled : s.Settled) (a : α) : s.Moves line (.ok a, s) := by
  have moves : s.Moves line (.ok a, s.moved s.position) := .ok settled.inside a
  rwa [settled.here] at moves

theorem Moves.refused (settled : s.Settled) (e : StreamError) :
    s.Moves false ((.error e, s) : Except StreamError α × ByteStream) := by
  refine ⟨s.position, settled.inside, settled.here.symm, ?_⟩
  intro _ _
  simp

theorem Moves.cut_off (settled : s.Settled) (cut : s.Cut e) (nothing : s.held ≤ s.position) :
    s.Moves true ((.error e, s) : Except StreamError α × ByteStream) := by
  refine ⟨s.position, settled.inside, settled.here.symm, ?_⟩
  intro e' same
  rw [← Except.error.inj same]
  simp [cut, nothing]

/-- A line goes on behind a byte that is there. -/
theorem Moves.onward (there : s.position < s.held)
    (moves : (s.moved (s.position + 1)).Moves true r) : s.Moves true r := by
  obtain ⟨p, inside, at_p, why⟩ := moves
  rw [size_moved] at inside
  rw [moved_moved] at at_p
  refine ⟨p, inside, at_p, fun e refused => ⟨?_, fun _ => ?_⟩⟩
  · intro other
    contradiction
  · obtain ⟨cut, last⟩ := (why e refused).2 rfl
    rw [position_moved, held_moved] at last
    exact ⟨cut_moved.mp cut, by omega⟩

theorem Moves.map {β : Type} (moves : s.Moves line r) (f : α → β) :
    s.Moves line (r.1.map f, r.2) := by
  obtain ⟨p, inside, at_p, why⟩ := moves
  refine ⟨p, inside, at_p, ?_⟩
  intro e refused
  cases answer : r.1 with
  | ok a =>
    rw [answer] at refused
    contradiction
  | error cause =>
    rw [answer] at refused
    exact why e (answer.trans (congrArg Except.error (Except.error.inj refused)))

end

theorem seek_moves (settled : s.Settled) (q : Nat) : s.Moves false (s.seek q) := by
  rw [seek_eq]
  split
  · rename_i inside
    exact .ok inside ()
  · exact .refused settled _

theorem read_moves (settled : s.Settled) (n : Nat) : s.Moves false (s.read n) := by
  rcases read_cases settled n with ⟨bytes, ok, ends, -⟩ | ⟨e, failed, -⟩
  · rw [ok]
    exact .ok ends bytes
  · rw [failed]
    exact .refused settled e

theorem peek_moves (settled : s.Settled) (n : Nat) : s.Moves false (s.peek n) := by
  unfold peek
  rcases read_cases settled (min n s.remaining) with ⟨bytes, ok, -, -⟩ | ⟨e, failed, -⟩
  · rw [ok]
    dsimp only
    rw [seek_eq, size_moved, if_pos settled.inside, moved_moved, settled.here]
    exact .stayed settled bytes
  · rw [failed]
    exact .refused settled e

/-- The bytes of a line are read one by one, each from where the one before has left the stream. -/
theorem collectLine_moves (steps limit : Nat) (line : Array UInt8) (settled : s.Settled) :
    s.Moves true (collectLine steps limit line s) := by
  induction steps generalizing s line with
  | zero => exact .stayed settled line
  | succ steps ih =>
    unfold collectLine
    split
    · rename_i goes
      have more : s.remaining ≠ 0 := by
        simpa [atEnd] using (Bool.and_eq_true_iff.mp goes).2
      rcases read_cases settled 1 with ⟨bytes, ok, ends, there⟩ | ⟨e, failed, why⟩
      · have behind := settled_moved ends
        rw [ok]
        refine .onward (there.resolve_left Nat.one_ne_zero) ?_
        dsimp only
        split
        · exact .stayed behind line
        · exact ih line behind
        · exact ih _ behind
        · exact .stayed behind line
      · obtain ⟨short, cut⟩ := why (Nat.pos_of_ne_zero more)
        rw [failed]
        exact .cut_off settled cut (Nat.le_of_lt_succ short)
    · exact .stayed settled line

theorem readLine_moves (settled : s.Settled) (limit : Nat) : s.Moves true (s.readLine limit) :=
  (collectLine_moves s.remaining limit #[] settled).map _

/-- Whatever is called only moves a stream, and only a line that is refused has moved it. -/
theorem call_moves (settled : s.Settled) (c : Call) : s.Moves c.readsLine (s.call c) := by
  cases c with
  | seek q => exact (seek_moves settled q).map _
  | read n => exact (read_moves settled n).map _
  | peek n => exact (peek_moves settled n).map _
  | readToEnd => exact (read_moves settled s.remaining).map _
  | readLine limit => exact (readLine_moves settled limit).map _

/-! ## Runs -/

theorem Settled.call (settled : s.Settled) (c : Call) : (s.call c).2.Settled := by
  obtain ⟨p, inside, at_p, -⟩ := call_moves settled c
  rw [at_p]
  exact settled_moved inside

theorem Settled.setLength (settled : s.Settled) (length : Nat) : (s.setLength length).Settled := by
  obtain ⟨inside, here⟩ := settled
  cases s with
  | memory m => exact ⟨inside, here⟩
  | file f =>
    obtain ⟨⟨content, cursor⟩, size, position⟩ := f
    have there : position = cursor :=
      congrArg (fun f : FileStream => f.file.cursor) (ByteStream.file.inj here)
    subst there
    exact ⟨inside, rfl⟩

theorem Reached.settled (reached : Reached s) : s.Settled := by
  induction reached with
  | memory data => exact ⟨Nat.zero_le _, rfl⟩
  | file data => exact ⟨Nat.zero_le _, rfl⟩
  | directory => exact ⟨Nat.zero_le _, rfl⟩
  | call c before ih => exact ih.call c
  | setLength length before ih => exact ih.setLength length

/-- Whatever was called before and however the file was cut, a refused call leaves the stream as it
is, unless it reads a line. A line is refused only by a file that is shorter than its stream, and
then it has been read up to the end of the file; so that call leaves the stream as it is, too, if
no byte was left to read. -/
theorem refused_stays {c : Call} {e : StreamError} (reached : Reached s)
    (refused : (s.call c).1 = .error e) :
    (c.readsLine = false ∨ s.held ≤ s.position → (s.call c).2 = s) ∧
      (c.readsLine = true →
        s.Cut e ∧ (s.call c).2.position = max s.position s.held) := by
  obtain ⟨p, inside, at_p, why⟩ := call_moves reached.settled c
  obtain ⟨stays, cut⟩ := why e refused
  rw [at_p]
  refine ⟨fun still => ?_, fun line => ⟨(cut line).1, ?_⟩⟩
  · have same : p = s.position := by
      cases line : c.readsLine with
      | false => exact stays line
      | true =>
        rw [(cut line).2]
        exact Nat.max_eq_left (still.resolve_left (by simp [line]))
    rw [same, reached.settled.here]
  · rw [position_moved, (cut line).2]

/-- Of three bytes in a file one is left: two cannot be read, and the stream stays at the start. -/
theorem refused_stays_cut_file :
    let s := (file (.ofBytes #[97, 98, 99])).setLength 1
    (s.call (.read 2)).1 = .error (.io ⟨"failed to fill whole buffer"⟩) ∧
      (s.call (.read 2)).2 = s := by
  intro s
  have refused : (s.call (.read 2)).1 = .error (.io ⟨"failed to fill whole buffer"⟩) := rfl
  have reached : Reached s := .setLength 1 (.file _)
  exact ⟨refused, (refused_stays reached refused).1 (.inl rfl)⟩

/-- A line of that file is refused as well, but the byte that is left has been read by then. -/
theorem not_refused_stays :
    ¬∀ s, Reached s → ∀ c e, (s.call c).1 = .error e → (s.call c).2.position = s.position := by
  intro stays
  let s := (file (.ofBytes #[97, 98, 99])).setLength 1
  have refused : (s.call (.readLine 10)).1 = .error (.io ⟨"failed to fill whole buffer"⟩) := rfl
  have behind : (s.call (.readLine 10)).2.position = 1 := rfl
  have start := stays s (.setLength 1 (.file _)) _ _ refused
  rw [behind] at start
  exact absurd start (by decide)

end ByteStream

end TileEngine
