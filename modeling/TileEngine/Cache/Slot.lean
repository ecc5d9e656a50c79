import TileEngine.Resource.Payload

/-!
The life of one entry's payload. A slot is empty, being loaded by one caller, or
loaded for good. Each caller looks at the slot, and what it sees decides whether
it takes the payload, becomes the one that loads, waits, or gives up because the
load it waited for has failed.
-/

namespace TileEngine

/-- Where an entry is in its life. -/
inductive SlotState where
  | empty
  | loading
  | loaded (payload : PayloadId)
  deriving DecidableEq, Repr, Inhabited

/-- The state of an entry, and how many loads of it have failed. -/
structure Slot where
  state : SlotState
  failures : Nat
  deriving DecidableEq, Repr, Inhabited

namespace Slot

/-- A slot that nobody has asked for yet. -/
def fresh : Slot := ⟨.empty, 0⟩

/-- A slot that is filled from the start. -/
def preset (payload : PayloadId) : Slot := ⟨.loaded payload, 0⟩

/-- What a caller does after a look at the slot. -/
inductive Move where
  /-- Take the payload. -/
  | take (payload : PayloadId)
  /-- Report that the load has failed. -/
  | giveUp
  /-- Run the loaders. -/
  | claim
  /-- Wait, remembering how many loads had failed when the waiting began. -/
  | wait (since : Nat)
  deriving DecidableEq, Repr

/-- The move of a caller that has been waiting since some number of failures, or
has not waited yet. -/
def look (s : Slot) (waiting : Option Nat) : Move :=
  match s.state with
  | .loaded payload => .take payload
  | .empty =>
    match waiting with
    | some since => if since != s.failures then .giveUp else .claim
    | none => .claim
  | .loading =>
    match waiting with
    | some since => if since != s.failures then .giveUp else .wait since
    | none => .wait s.failures

section look

variable {s : Slot} {waiting : Option Nat}

theorem look_eq_take_iff {p : PayloadId} : s.look waiting = .take p ↔ s.state = .loaded p := by
  unfold look
  cases s.state with
  | loaded q => simp
  | empty =>
    cases waiting with
    | none => simp
    | some n =>
      dsimp only
      split <;> simp
  | loading =>
    cases waiting with
    | none => simp
    | some n =>
      dsimp only
      split <;> simp

theorem look_eq_claim_iff :
    s.look waiting = .claim ↔ s.state = .empty ∧ ∀ n, waiting = some n → n = s.failures := by
  unfold look
  cases s.state with
  | loaded q => simp
  | empty => cases waiting <;> simp
  | loading =>
    cases waiting with
    | none => simp
    | some n =>
      dsimp only
      split <;> simp

theorem look_eq_wait_iff {since : Nat} :
    s.look waiting = .wait since ↔
      s.state = .loading ∧ since = s.failures ∧ ∀ n, waiting = some n → n = s.failures := by
  unfold look
  cases s.state with
  | loaded q => simp
  | empty =>
    cases waiting with
    | none => simp
    | some n =>
      dsimp only
      split <;> simp
  | loading =>
    cases waiting with
    | none => simp [eq_comm]
    | some n =>
      simp only [bne_iff_ne, ne_eq, true_and, Option.some.injEq, forall_eq']
      split
      · rename_i other
        simp [other]
      · rename_i same
        simp only [Decidable.not_not] at same
        simp only [Move.wait.injEq, same, and_true, eq_comm]

theorem look_eq_giveUp_iff :
    s.look waiting = .giveUp ↔
      (∀ p, s.state ≠ .loaded p) ∧ ∃ n, waiting = some n ∧ n ≠ s.failures := by
  unfold look
  cases s.state with
  | loaded q => simp
  | empty => cases waiting <;> simp
  | loading => cases waiting <;> simp

end look

/-- The slot while a caller runs the loaders. -/
def claimed (s : Slot) : Slot := { s with state := .loading }

/-- The slot after a load that gave a payload. -/
def filled (s : Slot) (payload : PayloadId) : Slot := { s with state := .loaded payload }

/-- The slot after a load that gave none; a panic counts as well. -/
def failed (s : Slot) : Slot := ⟨.empty, s.failures + 1⟩

/-- The payload of a loaded slot. -/
def payload? (s : Slot) : Option PayloadId :=
  match s.state with
  | .loaded payload => some payload
  | _ => none

end Slot

end TileEngine
