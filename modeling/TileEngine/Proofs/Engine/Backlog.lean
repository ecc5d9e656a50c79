import TileEngine.Proofs.Engine.Queue

/-!
The queue as a list of what waits. Whatever is asked of it, a queue answers like a list that keeps
timed actions in the order of their acceptance: an action goes to the end unless the list is full,
and of the actions with the least time the first one comes out, if it is due. The queue itself keeps
them in another order, and finds its way by the number that each action got when it was accepted.
What is due at one time comes out as the list sorted by time, actions of one time staying in the
order in which they stand there.
-/

namespace TileEngine

open scoped List

/-! ## Sorting by time alone -/

/-- Two members of a list without repetition stand in one order only. -/
theorem not_sublist_swap {α : Type} {l : List α} {a b : α} (distinct : l.Nodup)
    (forth : [a, b] <+ l) : ¬[b, a] <+ l := by
  induction l with
  | nil => simp at forth
  | cons x rest ih =>
    obtain ⟨fresh, distinct'⟩ := List.nodup_cons.mp distinct
    intro back
    rcases List.sublist_cons_iff.mp forth with within | ⟨r, starts, within⟩ <;>
      rcases List.sublist_cons_iff.mp back with within' | ⟨r', starts', within'⟩
    · exact ih distinct' within within'
    all_goals grind [List.Sublist.subset]

/-- Two different members of a list stand in one order or the other. -/
theorem sublist_or_swap {α : Type} {l : List α} {a b : α} (here : a ∈ l) (there : b ∈ l)
    (different : a ≠ b) : [a, b] <+ l ∨ [b, a] <+ l := by
  induction l with
  | nil => contradiction
  | cons x rest ih =>
    grind

/-- A merge sort keeps the order of members that compare equal. -/
theorem pairwise_mergeSort_stable {α : Type} (le : α → α → Bool) {R : α → α → Prop} {l : List α}
    (trans : ∀ a b c, le a b = true → le b c = true → le a c = true)
    (total : ∀ a b, (le a b || le b a) = true) (distinct : l.Nodup) (earlier : l.Pairwise R) :
    (l.mergeSort le).Pairwise fun a b => le a b = true ∧ (le b a = true → R a b) := by
  have sorted := List.pairwise_mergeSort trans total l
  have same := List.mergeSort_perm l le
  rw [List.pairwise_iff_forall_sublist] at sorted earlier ⊢
  intro a b pair
  refine ⟨sorted pair, fun equal => ?_⟩
  have members := pair.subset
  have different : a ≠ b := by
    rintro rfl
    exact List.nodup_iff_sublist.mp (same.nodup_iff.mpr distinct) a pair
  rcases sublist_or_swap (same.mem_iff.mp (members List.mem_cons_self))
    (same.mem_iff.mp (members (by simp))) different with forth | back
  · exact earlier forth
  · exact absurd (List.pair_sublist_mergeSort trans total equal back)
      (not_sublist_swap (same.nodup_iff.mpr distinct) pair)

/-! ## What waits, and how it is served -/

/-- An action and the time at which it is due. -/
structure Timed where
  due : Duration
  action : Action

/-- What may be asked of a queue. -/
inductive Request where
  | push (action : Action) (due : Duration)
  | pop (now : Duration)

/-- What a queue answers. -/
inductive Reply where
  | accepted
  | refused (full : QueueFull)
  | given (action : Action)
  | nothing

/-- Whether one action is due no later than another. -/
def Timed.byTime (a b : Timed) : Bool := a.due.nanos ≤ b.due.nanos

/-- Whether an action is due. -/
def Timed.isDue (now : Duration) (a : Timed) : Bool := a.due.nanos ≤ now.nanos

namespace Backlog

/-- How a list of what waits, in the order of acceptance, is served. -/
inductive Step (capacity : Nat) : List Timed → Request → Reply → List Timed → Prop
  | accept {waiting : List Timed} (action : Action) (due : Duration)
      (room : waiting.length < capacity) :
      Step capacity waiting (.push action due) .accepted (waiting ++ [⟨due, action⟩])
  | refuse {waiting : List Timed} (action : Action) (due : Duration)
      (full : waiting.length = capacity) :
      Step capacity waiting (.push action due) (.refused ⟨capacity⟩) waiting
  /-- The first action of the least time comes out; all others stay where they are. -/
  | give {waiting before after : List Timed} {first : Timed} (now : Duration)
      (parts : waiting = before ++ first :: after) (due : first.due.nanos ≤ now.nanos)
      (earlier : ∀ a ∈ before, first.due.nanos < a.due.nanos)
      (later : ∀ a ∈ after, first.due.nanos ≤ a.due.nanos) :
      Step capacity waiting (.pop now) (.given first.action) (before ++ after)
  | nothing {waiting : List Timed} (now : Duration)
      (early : ∀ a ∈ waiting, now.nanos < a.due.nanos) :
      Step capacity waiting (.pop now) .nothing waiting

/-- How it is served for one request after the other. -/
inductive Run (capacity : Nat) : List Timed → List Request → List Reply → List Timed → Prop
  | nil (waiting : List Timed) : Run capacity waiting [] [] waiting
  | cons {waiting next last : List Timed} {request : Request} {reply : Reply}
      {requests : List Request} {replies : List Reply}
      (step : Step capacity waiting request reply next)
      (rest : Run capacity next requests replies last) :
      Run capacity waiting (request :: requests) (reply :: replies) last

/-- The actions that were accepted. -/
def accepted : List Request → List Reply → List Action
  | .push action _ :: requests, .accepted :: replies => action :: accepted requests replies
  | _ :: requests, _ :: replies => accepted requests replies
  | _, _ => []

/-- The actions that came out. -/
def given : List Reply → List Action
  | .given action :: replies => action :: given replies
  | _ :: replies => given replies
  | [] => []

variable {capacity : Nat} {waiting next next' last last' : List Timed} {request : Request}
  {reply reply' : Reply} {requests : List Request} {replies replies' : List Reply}

/-- There is one place that holds the first action of the least time. -/
theorem first_unique {before before' after after' : List Timed} {first first' : Timed}
    (same : before ++ first :: after = before' ++ first' :: after')
    (earlier : ∀ a ∈ before, first.due.nanos < a.due.nanos)
    (later : ∀ a ∈ after, first.due.nanos ≤ a.due.nanos)
    (earlier' : ∀ a ∈ before', first'.due.nanos < a.due.nanos)
    (later' : ∀ a ∈ after', first'.due.nanos ≤ a.due.nanos) :
    before = before' ∧ first = first' ∧ after = after' := by
  rcases List.append_eq_append_iff.mp same with ⟨mid, front, back⟩ | ⟨mid, front, back⟩
  · cases mid with
    | nil => grind
    | cons x mid =>
      have := earlier' first (by grind)
      have := later first' (by grind)
      omega
  · cases mid with
    | nil => grind
    | cons x mid =>
      have := earlier first' (by grind)
      have := later' first (by grind)
      omega

theorem Step.unique (one : Step capacity waiting request reply next)
    (other : Step capacity waiting request reply' next') : reply = reply' ∧ next = next' := by
  cases one with
  | accept action due room =>
    cases other with
    | accept => exact ⟨rfl, rfl⟩
    | refuse _ _ full => exact absurd full (Nat.ne_of_lt room)
  | refuse action due full =>
    cases other with
    | accept _ _ room => exact absurd full (Nat.ne_of_lt room)
    | refuse => exact ⟨rfl, rfl⟩
  | give now parts due earlier later =>
    cases other with
    | give _ parts' _ earlier' later' =>
      obtain ⟨rfl, rfl, rfl⟩ := first_unique (parts.symm.trans parts') earlier later earlier' later'
      exact ⟨rfl, rfl⟩
    | nothing _ early => exact absurd due (Nat.not_le.mpr (early _ (by simp [parts])))
  | nothing now early =>
    cases other with
    | give _ parts due => exact absurd due (Nat.not_le.mpr (early _ (by simp [parts])))
    | nothing => exact ⟨rfl, rfl⟩

theorem Run.unique (one : Run capacity waiting requests replies last)
    (other : Run capacity waiting requests replies' last') : replies = replies' ∧ last = last' := by
  induction one generalizing replies' last' with
  | nil => cases other; exact ⟨rfl, rfl⟩
  | cons step rest ih =>
    cases other with
    | cons step' rest' =>
      obtain ⟨rfl, rfl⟩ := step.unique step'
      obtain ⟨rfl, rfl⟩ := ih rest'
      exact ⟨rfl, rfl⟩

/-- One request neither loses nor repeats an action. -/
theorem Step.conserved (step : Step capacity waiting request reply next) :
    waiting.map Timed.action ++ accepted [request] [reply] ~
      given [reply] ++ next.map Timed.action := by
  cases step with
  | accept => simp [accepted, given]
  | refuse => simp [accepted, given]
  | give now parts => simp [accepted, given, parts]
  | nothing => simp [accepted, given]

theorem accepted_cons (request : Request) (reply : Reply) (requests : List Request)
    (replies : List Reply) : accepted (request :: requests) (reply :: replies) =
      accepted [request] [reply] ++ accepted requests replies := by
  cases request <;> cases reply <;> rfl

theorem given_cons (reply : Reply) (replies : List Reply) :
    given (reply :: replies) = given [reply] ++ given replies := by
  cases reply <;> rfl

/-- What was accepted came out once or still waits. -/
theorem Run.conserved (run : Run capacity waiting requests replies last) :
    waiting.map Timed.action ++ accepted requests replies ~
      given replies ++ last.map Timed.action := by
  induction run with
  | nil => simp [accepted, given]
  | @cons waiting next last request reply requests replies step rest ih =>
    rw [accepted_cons, given_cons]
    calc waiting.map Timed.action ++ (accepted [request] [reply] ++ accepted requests replies)
      _ = waiting.map Timed.action ++ accepted [request] [reply] ++ accepted requests replies :=
        (List.append_assoc ..).symm
      _ ~ given [reply] ++ next.map Timed.action ++ accepted requests replies :=
        step.conserved.append_right _
      _ = given [reply] ++ (next.map Timed.action ++ accepted requests replies) :=
        List.append_assoc ..
      _ ~ given [reply] ++ (given replies ++ last.map Timed.action) := ih.append_left _
      _ = given [reply] ++ given replies ++ last.map Timed.action := (List.append_assoc ..).symm

end Backlog

/-! ## The queue beside the list -/

/-- An accepted action without its number. -/
def Scheduled.timed (a : Scheduled) : Timed := ⟨a.due, a.action⟩

namespace ActionQueue

/-- The pending actions in the order of their acceptance. -/
def entries (q : ActionQueue) : List Scheduled := q.pending.mergeSort (·.serial ≤ ·.serial)

/-- What waits in a queue. -/
def waiting (q : ActionQueue) : List Timed := q.entries.map Scheduled.timed

/-- The answer to a request, and the queue after it. -/
def ask (q : ActionQueue) : Request → Reply × ActionQueue
  | .push action due =>
    match q.push action due with
    | .ok r => (.accepted, r)
    | .error full => (.refused full, q)
  | .pop now =>
    match q.popDue now with
    | some (action, r) => (.given action, r)
    | none => (.nothing, q)

/-- The answers to requests one after the other. -/
def replies : ActionQueue → List Request → List Reply
  | _, [] => []
  | q, request :: rest => (q.ask request).1 :: replies (q.ask request).2 rest

/-- The queue after requests one after the other. -/
def after (q : ActionQueue) (requests : List Request) : ActionQueue :=
  requests.foldl (fun q request => (q.ask request).2) q

/-- A queue in order, with no more than it may hold, and whose actions have different numbers. -/
structure Sound (q : ActionQueue) : Prop extends q.Ordered where
  distinct : (q.pending.map Scheduled.serial).Nodup
  room : q.len ≤ q.capacity

variable {q r : ActionQueue} {now due : Duration} {action : Action} {first : Scheduled}

theorem entries_perm (q : ActionQueue) : q.entries ~ q.pending := List.mergeSort_perm ..

/-- Where the numbers are different, the order of acceptance is one. -/
theorem entries_pairwise (distinct : (q.pending.map Scheduled.serial).Nodup) :
    q.entries.Pairwise fun a b => a.serial < b.serial := by
  have sorted : q.entries.Pairwise fun a b => decide (a.serial ≤ b.serial) = true :=
    List.pairwise_mergeSort (by simp; omega) (by simp; omega) q.pending
  have distinct := (q.entries_perm.map Scheduled.serial).nodup_iff.mpr distinct
  rw [List.nodup_iff_pairwise_ne, List.pairwise_map] at distinct
  exact (sorted.and distinct).imp fun ⟨le, ne⟩ => Nat.lt_of_le_of_ne (of_decide_eq_true le) ne

/-- There is only one order of acceptance. -/
theorem entries_eq {l : List Scheduled} (sorted : l.Pairwise fun a b => a.serial < b.serial)
    (same : l ~ q.pending) : q.entries = l := by
  have distinct : (q.pending.map Scheduled.serial).Nodup := by
    rw [← (same.map Scheduled.serial).nodup_iff, List.nodup_iff_pairwise_ne, List.pairwise_map]
    exact sorted.imp Nat.ne_of_lt
  refine List.Perm.eq_of_pairwise (fun a b _ _ forth back => ?_) (entries_pairwise distinct) sorted
    (q.entries_perm.trans same.symm)
  exact absurd forth (Nat.lt_asymm back)

theorem length_waiting (q : ActionQueue) : q.waiting.length = q.len := by
  rw [waiting, List.length_map, q.entries_perm.length_eq, len]

theorem sound_ofCapacity (capacity : Nat) : (ofCapacity capacity).Sound :=
  ⟨ordered_ofCapacity capacity, List.nodup_nil, Nat.zero_le _⟩

theorem waiting_ofCapacity (capacity : Nat) : (ofCapacity capacity).waiting = [] :=
  List.eq_nil_of_length_eq_zero (length_waiting _)

/-! ## What a request does -/

/-- An accepted action waits behind all others. -/
theorem Sound.entries_push (sound : q.Sound) (pushed : q.push action due = .ok r) :
    r.entries = q.entries ++ [⟨due, q.nextSerial, action⟩] := by
  rw [push_eq_ok pushed]
  apply entries_eq
  · refine List.pairwise_append.mpr
      ⟨entries_pairwise sound.distinct, List.pairwise_singleton _ _, ?_⟩
    intro a member b newest
    rw [List.mem_singleton.mp newest]
    exact sound.numbered a (q.entries_perm.mem_iff.mp member)
  · calc q.entries ++ [⟨due, q.nextSerial, action⟩]
      _ ~ ⟨due, q.nextSerial, action⟩ :: q.entries := List.perm_append_singleton ..
      _ ~ ⟨due, q.nextSerial, action⟩ :: q.pending := q.entries_perm.cons _
      _ ~ place ⟨due, q.nextSerial, action⟩ q.pending := (place_perm ..).symm

theorem Sound.push (sound : q.Sound) (pushed : q.push action due = .ok r)
    (room : q.len < q.capacity) : r.Sound := by
  have placed := place_perm ⟨due, q.nextSerial, action⟩ q.pending
  refine ⟨sound.toOrdered.push pushed, ?_, ?_⟩
  · rw [push_eq_ok pushed, (placed.map Scheduled.serial).nodup_iff, List.map_cons,
      List.nodup_cons]
    refine ⟨?_, sound.distinct⟩
    intro member
    obtain ⟨a, old, same⟩ := List.mem_map.mp member
    exact absurd same (Nat.ne_of_lt (sound.numbered a old))
  · rw [push_eq_ok pushed, len, placed.length_eq]
    exact room

/-- A queue refuses exactly when it holds as many actions as it may. -/
theorem Sound.push_cases (sound : q.Sound) (action : Action) (due : Duration) :
    (q.len < q.capacity ∧ ∃ r, q.push action due = .ok r) ∨
      q.len = q.capacity ∧ q.push action due = .error ⟨q.capacity⟩ := by
  rcases Nat.lt_or_eq_of_le sound.room with room | full
  · exact .inl ⟨room, _, if_neg (Nat.not_le.mpr room)⟩
  · exact .inr ⟨full, if_pos (Nat.le_of_eq full.symm)⟩

theorem Ordered.rest (ordered : q.Ordered) (parts : q.pending = first :: r.pending)
    (others : r = { q with pending := r.pending }) : r.Ordered := by
  have serial : r.nextSerial = q.nextSerial := by rw [others]
  have split_off : q.pending = [first] ++ r.pending := parts
  exact ordered.suffix split_off serial

/-- What is left of the queue when the first action has come out. -/
theorem Sound.rest (sound : q.Sound) (parts : q.pending = first :: r.pending)
    (others : r = { q with pending := r.pending }) : r.Sound := by
  have capacity : r.capacity = q.capacity := by rw [others]
  refine ⟨sound.toOrdered.rest parts others, ?_, ?_⟩
  · have distinct := sound.distinct
    rw [parts, List.map_cons] at distinct
    exact (List.nodup_cons.mp distinct).2
  · have room := sound.room
    rw [len, parts, List.length_cons] at room
    rw [capacity]
    exact Nat.le_of_succ_le room

/-- The action that comes out is the first one that was accepted of those with the least time. -/
theorem Sound.entries_rest (sound : q.Sound) (parts : q.pending = first :: r.pending) :
    ∃ before after, q.entries = before ++ first :: after ∧ r.entries = before ++ after ∧
      (∀ a ∈ before, first.due.nanos < a.due.nanos) ∧
      ∀ a ∈ after, first.due.nanos ≤ a.due.nanos := by
  have member : first ∈ q.entries := q.entries_perm.mem_iff.mpr (parts ▸ List.mem_cons_self)
  obtain ⟨before, after, split⟩ := List.append_of_mem member
  have accepted := entries_pairwise sound.distinct
  rw [split] at accepted
  have others : before ++ after ~ r.pending := by
    have all := q.entries_perm
    rw [split, parts] at all
    exact (List.perm_middle.symm.trans all).cons_inv
  have ahead : ∀ a ∈ before ++ after, first.precedes a = true := by
    intro a here
    have ordered := sound.ordered
    rw [parts] at ordered
    exact List.rel_of_pairwise_cons ordered (others.mem_iff.mp here)
  obtain ⟨-, -, between⟩ := List.pairwise_append.mp accepted
  refine ⟨before, after, split, entries_eq ?_ others, ?_, ?_⟩
  · exact accepted.sublist (List.Sublist.append_left (List.sublist_cons_self ..) _)
  · intro a here
    have later := between a here first List.mem_cons_self
    have order := (Scheduled.precedes_iff first a).mp (ahead a (List.mem_append_left _ here))
    omega
  · intro a here
    exact Scheduled.due_le_of_precedes (ahead a (List.mem_append_right _ here))

/-- Either the first action comes out, or none is due. -/
theorem popDue_cases (ordered : q.Ordered) (now : Duration) :
    (∃ first r, q.popDue now = some (first.action, r) ∧ q.pending = first :: r.pending ∧
      first.due.nanos ≤ now.nanos ∧ r = { q with pending := r.pending }) ∨
    q.popDue now = none ∧ ∀ a ∈ q.pending, now.nanos < a.due.nanos := by
  unfold popDue
  cases taken : q.takeDue now with
  | none => exact .inr ⟨rfl, takeDue_eq_none ordered.ordered taken⟩
  | some result =>
    obtain ⟨first, r⟩ := result
    obtain ⟨parts, due, others⟩ := takeDue_eq_some taken
    exact .inl ⟨first, r, rfl, parts, due, others⟩

theorem ask_accepted (pushed : q.push action due = .ok r) :
    q.ask (.push action due) = (.accepted, r) := by
  rw [ask, pushed]

theorem ask_refused {full : QueueFull} (refused : q.push action due = .error full) :
    q.ask (.push action due) = (.refused full, q) := by
  rw [ask, refused]

theorem ask_given (popped : q.popDue now = some (action, r)) :
    q.ask (.pop now) = (.given action, r) := by
  rw [ask, popped]

theorem ask_nothing (nothing : q.popDue now = none) : q.ask (.pop now) = (.nothing, q) := by
  rw [ask, nothing]

/-- A queue answers a request as the list does, and what waits in it afterwards is that list. -/
theorem Sound.ask (sound : q.Sound) (request : Request) :
    (q.ask request).2.Sound ∧ (q.ask request).2.capacity = q.capacity ∧
      Backlog.Step q.capacity q.waiting request (q.ask request).1 (q.ask request).2.waiting := by
  cases request with
  | push action due =>
    rcases sound.push_cases action due with ⟨room, r, pushed⟩ | ⟨full, refused⟩
    · have waits : r.waiting = q.waiting ++ [⟨due, action⟩] := by
        rw [waiting, sound.entries_push pushed, List.map_append]
        rfl
      rw [ask_accepted pushed, waits]
      refine ⟨sound.push pushed room, ?_, .accept action due (by rwa [length_waiting])⟩
      rw [push_eq_ok pushed]
    · rw [ask_refused refused]
      exact ⟨sound, rfl, .refuse action due (by rwa [length_waiting])⟩
  | pop now =>
    rcases popDue_cases sound.toOrdered now with
      ⟨first, r, popped, parts, due, others⟩ | ⟨nothing, early⟩
    · obtain ⟨before, after, whole, left, earlier, later⟩ := sound.entries_rest parts
      have here : q.waiting =
          before.map Scheduled.timed ++ first.timed :: after.map Scheduled.timed := by
        rw [waiting, whole, List.map_append, List.map_cons]
      have waits : r.waiting = before.map Scheduled.timed ++ after.map Scheduled.timed := by
        rw [waiting, left, List.map_append]
      rw [ask_given popped, waits]
      refine ⟨sound.rest parts others, ?_, .give now here due (List.forall_mem_map.mpr earlier)
        (List.forall_mem_map.mpr later)⟩
      rw [others]
    · rw [ask_nothing nothing]
      refine ⟨sound, rfl, .nothing now (List.forall_mem_map.mpr ?_)⟩
      exact fun a member => early a (q.entries_perm.mem_iff.mp member)

theorem Sound.run (sound : q.Sound) (requests : List Request) :
    (q.after requests).Sound ∧ (q.after requests).capacity = q.capacity ∧
      Backlog.Run q.capacity q.waiting requests (q.replies requests)
        (q.after requests).waiting := by
  induction requests generalizing q with
  | nil => exact ⟨sound, rfl, .nil _⟩
  | cons request rest ih =>
    obtain ⟨next, kept, step⟩ := sound.ask request
    obtain ⟨last, same, run⟩ := ih next
    rw [kept] at same run
    exact ⟨last, same, .cons step run⟩

/-! ## Taking out what is due -/

/-- The pending actions that are due, in the order in which they come out. -/
def dueBy (q : ActionQueue) (now : Duration) : List Scheduled :=
  q.pending.filter (·.timed.isDue now)

/-- The action that comes out is the first of those that are due. -/
theorem dueBy_of_given (parts : q.pending = first :: r.pending)
    (due : first.due.nanos ≤ now.nanos) : q.dueBy now = first :: r.dueBy now := by
  have is_due : first.timed.isDue now = true := decide_eq_true due
  rw [dueBy, parts, List.filter_cons, if_pos is_due]
  rfl

theorem dueBy_of_nothing (early : ∀ a ∈ q.pending, now.nanos < a.due.nanos) :
    q.dueBy now = [] :=
  List.filter_eq_nil_iff.mpr fun a member due =>
    absurd (of_decide_eq_true due) (Nat.not_le.mpr (early a member))

/-- Asked often enough, the queue gives what is due one after the other, and then nothing. -/
theorem replies_pops (ordered : q.Ordered) (now : Duration) (n : Nat)
    (enough : (q.dueBy now).length ≤ n) :
    q.replies (List.replicate n (.pop now)) = (q.dueBy now).map (.given ·.action) ++
      List.replicate (n - (q.dueBy now).length) .nothing := by
  induction n generalizing q with
  | zero =>
    rw [List.eq_nil_of_length_eq_zero (Nat.le_zero.mp enough)]
    rfl
  | succ n ih =>
    rw [List.replicate_succ, replies]
    rcases popDue_cases ordered now with ⟨first, r, popped, parts, due, others⟩ | ⟨nothing, early⟩
    · have rest := ordered.rest parts others
      rw [dueBy_of_given parts due, List.length_cons] at enough ⊢
      rw [ask_given popped, ih rest (Nat.le_of_succ_le_succ enough), List.map_cons,
        Nat.add_sub_add_right]
      rfl
    · have later := ih ordered (by rw [dueBy_of_nothing early]; exact Nat.zero_le n)
      rw [dueBy_of_nothing early] at later ⊢
      rw [ask_nothing nothing, later]
      rfl

theorem filter_of_none_due (nothing : q.dueBy now = []) :
    q.pending.filter (!·.timed.isDue now) = q.pending :=
  List.filter_eq_self.mpr fun a member => by simpa using List.filter_eq_nil_iff.mp nothing a member

/-- Taking out what is due leaves the rest. -/
theorem drainSteps_eq (ordered : q.Ordered) (now : Duration) (n : Nat)
    (enough : (q.dueBy now).length ≤ n) :
    drainSteps n q now = ((q.dueBy now).map Scheduled.action,
      { q with pending := q.pending.filter (!·.timed.isDue now) }) := by
  induction n generalizing q with
  | zero =>
    have nothing : q.dueBy now = [] := List.eq_nil_of_length_eq_zero (Nat.le_zero.mp enough)
    rw [filter_of_none_due nothing, nothing]
    rfl
  | succ n ih =>
    rw [drainSteps]
    rcases popDue_cases ordered now with ⟨first, r, popped, parts, due, others⟩ | ⟨nothing, early⟩
    · have rest := ordered.rest parts others
      have is_due : first.timed.isDue now = true := decide_eq_true due
      rw [dueBy_of_given parts due, List.length_cons] at enough
      rw [popped, dueBy_of_given parts due, parts, List.filter_cons]
      simp only [ih rest (Nat.le_of_succ_le_succ enough), is_due, List.map_cons]
      rw [others]
      rfl
    · rw [nothing, filter_of_none_due (dueBy_of_nothing early), dueBy_of_nothing early]
      rfl

/-- What is due comes out sorted by time, actions of one time in the order of their acceptance. -/
theorem Sound.timed_dueBy (sound : q.Sound) (now : Duration) :
    (q.dueBy now).map Scheduled.timed =
      (q.waiting.filter (·.isDue now)).mergeSort Timed.byTime := by
  let byTime (a b : Scheduled) : Bool := a.timed.byTime b.timed
  have byTime_iff (a b : Scheduled) : byTime a b = true ↔ a.due.nanos ≤ b.due.nanos :=
    decide_eq_true_iff
  have accepted := (entries_pairwise sound.distinct).filter (·.timed.isDue now)
  have distinct : (q.entries.filter (·.timed.isDue now)).Nodup :=
    List.nodup_iff_pairwise_ne.mpr
      (accepted.imp fun lt same => absurd (same ▸ lt) (Nat.lt_irrefl _))
  have sorted := pairwise_mergeSort_stable byTime
    (by simp only [byTime_iff]; omega) (by simp only [Bool.or_eq_true, byTime_iff]; omega)
    distinct accepted
  have same : q.dueBy now = (q.entries.filter (·.timed.isDue now)).mergeSort byTime := by
    refine List.Perm.eq_of_pairwise (fun a b _ _ forth back => ?_) (sound.ordered.filter _)
      (sorted.imp fun {a b} both => ?_) ?_
    · rw [Scheduled.precedes_iff] at forth back
      omega
    · rw [Scheduled.precedes_iff]
      simp only [byTime_iff] at both
      omega
    · exact (q.entries_perm.filter _).symm.trans (List.mergeSort_perm ..).symm
  rw [same, waiting, List.filter_map]
  exact List.map_mergeSort fun _ _ _ _ => rfl

/-- What is left waits in the order of acceptance, as before. -/
theorem Sound.waiting_filter (sound : q.Sound) (p : Timed → Bool) :
    waiting { q with pending := q.pending.filter (p ·.timed) } = q.waiting.filter p := by
  have kept : entries { q with pending := q.pending.filter (p ·.timed) } =
      q.entries.filter (p ·.timed) :=
    entries_eq ((entries_pairwise sound.distinct).filter _) (q.entries_perm.filter _)
  rw [waiting, kept, waiting, List.filter_map]
  rfl

/-- A request that neither brings an action nor gets one leaves the queue as it is. -/
theorem ask_unchanged {request : Request} (not_accepted : (q.ask request).1 ≠ .accepted)
    (not_given : ∀ action, (q.ask request).1 ≠ .given action) : (q.ask request).2 = q := by
  cases request with
  | push action due =>
    cases pushed : q.push action due with
    | ok r => exact absurd (congrArg Prod.fst (ask_accepted pushed)) not_accepted
    | error full => rw [ask_refused pushed]
  | pop now =>
    cases popped : q.popDue now with
    | some result =>
      exact absurd (congrArg Prod.fst (ask_given (r := result.2) popped)) (not_given result.1)
    | none => rw [ask_nothing popped]

/-- Whatever was asked of a queue in whatever order, it has answered as a bounded list does that is
kept in the order of acceptance, and what waits in the queue is that list. What was accepted came
out once or still waits. An action is refused exactly when as many are pending as may be, which are
never more; a refusal leaves the queue as it is, and so does a look for a due action where there is
none. What is due at one time comes out as the list of it sorted by time alone, actions of one time
as they stand there, and then nothing more; the others wait as before. -/
theorem serves_as_backlog (capacity : Nat) (requests : List Request) :
    let start := ofCapacity capacity
    let q := start.after requests
    (∀ replies waiting, Backlog.Run capacity [] requests replies waiting ↔
      replies = start.replies requests ∧ waiting = q.waiting) ∧
    Backlog.accepted requests (start.replies requests) ~
      Backlog.given (start.replies requests) ++ q.waiting.map Timed.action ∧
    q.len = q.waiting.length ∧ q.len ≤ capacity ∧
    (∀ action due, q.push action due = .error ⟨capacity⟩ ↔ q.len = capacity) ∧
    (∀ request, (q.ask request).1 ≠ .accepted → (∀ action, (q.ask request).1 ≠ .given action) →
      (q.ask request).2 = q) ∧
    ∀ now,
      let due := (q.waiting.filter (·.isDue now)).mergeSort Timed.byTime
      (∀ n, due.length ≤ n → q.replies (List.replicate n (.pop now)) =
        due.map (.given ·.action) ++ List.replicate (n - due.length) .nothing) ∧
      (q.drain now).1 = due.map Timed.action ∧
      (q.drain now).2.waiting = q.waiting.filter (!·.isDue now) := by
  intro start q
  obtain ⟨sound, same, run⟩ := (sound_ofCapacity capacity).run requests
  rw [waiting_ofCapacity] at run
  change q.Sound at sound
  change q.capacity = capacity at same
  refine ⟨fun replies waiting => ⟨fun other => ?_, ?_⟩, ?_, (length_waiting q).symm,
    same ▸ sound.room, fun action due => ?_, fun _ => ask_unchanged, fun now => ?_⟩
  · exact Backlog.Run.unique other run
  · rintro ⟨rfl, rfl⟩
    exact run
  · exact run.conserved
  · rw [← same]
    rcases sound.push_cases action due with ⟨room, r, pushed⟩ | ⟨full, refused⟩
    · exact ⟨fun refused => absurd (pushed.symm.trans refused) nofun,
        fun full => absurd full (Nat.ne_of_lt room)⟩
    · exact ⟨fun _ => full, fun _ => refused⟩
  · rw [← sound.timed_dueBy now]
    have drained := drainSteps_eq sound.toOrdered now q.len (List.length_filter_le ..)
    refine ⟨fun n enough => ?_, ?_, ?_⟩
    · rw [List.length_map] at enough ⊢
      rw [replies_pops sound.toOrdered now n enough, List.map_map]
      rfl
    · rw [drain, drained, List.map_map]
      rfl
    · rw [drain, drained]
      exact sound.waiting_filter fun a => !a.isDue now

end ActionQueue

end TileEngine
