import TileEngine.ActionQueue
import Mathlib.Data.List.Sort

/-!
The order of the queue of actions. Accepted actions stay in the order in which they are to
come out: by time, and those of one time in the order of their acceptance. So what is due
stands in front of what is not.
-/

namespace TileEngine

open scoped List

namespace Scheduled

theorem precedes_iff (a b : Scheduled) :
    a.precedes b = true ↔
      a.due.nanos < b.due.nanos ∨ a.due.nanos = b.due.nanos ∧ a.serial < b.serial := by
  simp [precedes]

theorem precedes_trans {a b c : Scheduled} (first : a.precedes b = true)
    (second : b.precedes c = true) : a.precedes c = true := by
  rw [precedes_iff] at first second ⊢
  omega

/-- Of two actions the one that was accepted earlier comes first unless it is due later. -/
theorem precedes_of_not {a b : Scheduled} (older : b.serial < a.serial)
    (not_first : ¬a.precedes b = true) : b.precedes a = true := by
  rw [precedes_iff] at not_first ⊢
  omega

theorem due_le_of_precedes {a b : Scheduled} (first : a.precedes b = true) :
    a.due.nanos ≤ b.due.nanos := by
  rw [precedes_iff] at first
  omega

end Scheduled

namespace ActionQueue

theorem place_eq_orderedInsert (entry : Scheduled) (entries : List Scheduled) :
    place entry entries = entries.orderedInsert (fun a b => a.precedes b = true) entry := by
  induction entries with
  | nil => rfl
  | cons next rest ih => rw [place, List.orderedInsert_cons, ih]

theorem place_perm (entry : Scheduled) (entries : List Scheduled) :
    place entry entries ~ entry :: entries := by
  rw [place_eq_orderedInsert]
  exact List.perm_orderedInsert _ entry entries

/-- The newest action goes behind all others that are due by its time. -/
theorem place_ordered {entry : Scheduled} {entries : List Scheduled}
    (ordered : entries.Pairwise fun a b => a.precedes b = true)
    (newest : ∀ a ∈ entries, a.serial < entry.serial) :
    (place entry entries).Pairwise fun a b => a.precedes b = true := by
  induction entries with
  | nil => exact List.pairwise_singleton _ _
  | cons next rest ih =>
    obtain ⟨first, ordered'⟩ := List.pairwise_cons.mp ordered
    rw [place]
    split
    · rename_i before
      refine List.pairwise_cons.mpr ⟨?_, ordered⟩
      intro a member
      rcases List.mem_cons.mp member with rfl | later
      · exact before
      · exact Scheduled.precedes_trans before (first a later)
    · rename_i after
      have behind := Scheduled.precedes_of_not (newest next List.mem_cons_self) after
      refine List.pairwise_cons.mpr
        ⟨?_, ih ordered' fun a member => newest a (List.mem_cons_of_mem _ member)⟩
      intro a member
      rcases List.mem_cons.mp ((place_perm entry rest).mem_iff.mp member) with rfl | later
      · exact behind
      · exact first a later

/-- The pending actions are in order, and their numbers were given out. -/
structure Ordered (q : ActionQueue) : Prop where
  ordered : q.pending.Pairwise fun a b => a.precedes b = true
  numbered : ∀ a ∈ q.pending, a.serial < q.nextSerial

variable {q r : ActionQueue} {now due : Duration} {action : Action} {first : Scheduled}

theorem ordered_ofCapacity (capacity : Nat) : (ofCapacity capacity).Ordered :=
  ⟨List.Pairwise.nil, fun _ member => absurd member List.not_mem_nil⟩

theorem push_eq_ok (pushed : q.push action due = .ok r) :
    r = { q with
      pending := place ⟨due, q.nextSerial, action⟩ q.pending
      nextSerial := q.nextSerial + 1 } := by
  unfold push at pushed
  split at pushed
  · contradiction
  · exact (Except.ok.inj pushed).symm

theorem Ordered.push (sound : q.Ordered) (pushed : q.push action due = .ok r) : r.Ordered := by
  rw [push_eq_ok pushed]
  refine ⟨place_ordered sound.ordered sound.numbered, ?_⟩
  intro a member
  rcases List.mem_cons.mp ((place_perm _ _).mem_iff.mp member) with rfl | old
  · exact Nat.lt_succ_self _
  · exact Nat.lt_succ_of_lt (sound.numbered a old)

/-- What is left when actions at the front have come out. -/
theorem Ordered.suffix {front : List Scheduled} (sound : q.Ordered)
    (parts : q.pending = front ++ r.pending) (serial : r.nextSerial = q.nextSerial) :
    r.Ordered := by
  have whole := sound.ordered
  rw [parts] at whole
  refine ⟨(List.pairwise_append.mp whole).2.1, ?_⟩
  intro a member
  rw [serial]
  exact sound.numbered a (parts ▸ List.mem_append_right _ member)

theorem takeDue_eq_some (taken : q.takeDue now = some (first, r)) :
    q.pending = first :: r.pending ∧ first.due.nanos ≤ now.nanos ∧
      r = { q with pending := r.pending } := by
  unfold takeDue at taken
  split at taken
  · contradiction
  · rename_i next rest pending
    split at taken
    · contradiction
    · rename_i late
      cases taken
      exact ⟨pending, Nat.le_of_not_gt late, rfl⟩

/-- Where the first action is not due none is. -/
theorem takeDue_eq_none (ordered : q.pending.Pairwise fun a b => a.precedes b = true)
    (nothing : q.takeDue now = none) : ∀ a ∈ q.pending, now.nanos < a.due.nanos := by
  unfold takeDue at nothing
  split at nothing
  · rename_i empty
    simp [empty]
  · rename_i next rest pending
    rw [pending] at ordered ⊢
    split at nothing
    · rename_i late
      intro a member
      rcases List.mem_cons.mp member with rfl | behind
      · exact late
      · exact Nat.lt_of_lt_of_le late
          (Scheduled.due_le_of_precedes (List.rel_of_pairwise_cons ordered behind))
    · contradiction

end ActionQueue

end TileEngine
