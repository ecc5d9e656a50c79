import TileEngine.Proofs.Engine.Calls

/-!
The schedule. Whatever is done to an engine, in whatever order: no accepted action is lost
and none is performed twice; none is performed early; those of one tick are performed by
time and, at one time, in the order of their acceptance; and only the end of the engine
leaves due actions behind.
-/

namespace TileEngine

open scoped List

namespace Engine

/-- What a tick that takes place does to scheduled actions. -/
structure Ticked (e : Engine) (delta : Duration) (performed : List Scheduled) (e' : Engine) :
    Prop where
  clock : e'.clock.nanos = e.clock.nanos + delta.nanos
  /-- The tick is the actions, one after the other, between the start and the resources. -/
  effect : e' = advance
    { perform { e.start with clock := e'.clock } performed with actions := e'.actions } delta
  /-- Performed actions leave the queue, and the others stay. -/
  parts : performed ++ e'.actions.pending = e.actions.pending
  /-- None of them is early. -/
  due : ∀ a ∈ performed, a.due.nanos ≤ e'.clock.nanos
  /-- They are performed by time and acceptance, and before all that stay. -/
  ordered : (performed ++ e'.actions.pending).Pairwise fun a b => a.precedes b = true
  /-- Only the last one may have made the engine quit. -/
  alive : ∀ front, front <+: performed → front ≠ performed → (e.start.perform front).stage ≠ .quit
  /-- Nothing due is left, unless the engine has quit. -/
  complete : e'.stage ≠ .quit → ∀ a ∈ e'.actions.pending, e'.clock.nanos < a.due.nanos

/-- What has become of the actions that were queued so far, and what the next tick will do. -/
structure Schedule (start : Engine) (past : List Call) : Prop where
  /-- The accepted actions are those that were performed, and those that are pending. -/
  conserved : start.history accepted past ~
    start.history performed past ++ (start.after past).actions.pending
  /-- They are numbered in the order of their acceptance. -/
  numbered : (start.history accepted past).map Scheduled.serial =
    List.range (start.history accepted past).length
  /-- None is performed twice, and none that was performed is pending. -/
  once : ((start.history performed past ++ (start.after past).actions.pending).map
    Scheduled.serial).Nodup
  tick : ∀ delta, (start.after past).Advances delta →
    Ticked (start.after past) delta ((start.after past).performed (.tick delta))
      ((start.after past).tick delta).1
  /-- A tick that does not take place performs nothing. -/
  idle : ∀ delta, ¬(start.after past).Advances delta →
    (start.after past).performed (.tick delta) = []

/-- What one call does to the queue. -/
structure Keeps (e : Engine) (accepted performed : List Scheduled) (e' : Engine) : Prop where
  ordered : e'.actions.Ordered
  parts : accepted ++ e.actions.pending ~ performed ++ e'.actions.pending
  serials : List.range e.actions.nextSerial ++ accepted.map Scheduled.serial =
    List.range e'.actions.nextSerial

variable {e e' : Engine} {delta : Duration}

theorem Keeps.of_actions (ordered : e.actions.Ordered) (same : e'.actions = e.actions) :
    Keeps e [] [] e' := by
  refine ⟨same ▸ ordered, ?_, ?_⟩
  · rw [same]
  · rw [same, List.map_nil, List.append_nil]

theorem Keeps.trans {e'' : Engine} {accepted accepted' performed performed' : List Scheduled}
    (first : Keeps e accepted performed e') (second : Keeps e' accepted' performed' e'') :
    Keeps e (accepted ++ accepted') (performed ++ performed') e'' := by
  refine ⟨second.ordered, ?_, ?_⟩
  · calc accepted ++ accepted' ++ e.actions.pending
      _ ~ accepted' ++ (accepted ++ e.actions.pending) := by
        rw [List.append_assoc]
        exact List.perm_append_comm_assoc _ _ _
      _ ~ accepted' ++ (performed ++ e'.actions.pending) := first.parts.append_left _
      _ ~ performed ++ (accepted' ++ e'.actions.pending) := List.perm_append_comm_assoc _ _ _
      _ ~ performed ++ (performed' ++ e''.actions.pending) := second.parts.append_left _
      _ = performed ++ performed' ++ e''.actions.pending := (List.append_assoc _ _ _).symm
  · rw [List.map_append, ← List.append_assoc, first.serials, second.serials]

theorem keeps_queue (ordered : e.actions.Ordered) (action : Action) (due : Duration) :
    Keeps e (e.admitted action due) [] ((e.queue action due).toOption.getD e) := by
  rcases queue_eq e action due with ⟨q, pushed, queued, taken⟩ | ⟨full, refused, nothing⟩
  · rw [queued, taken]
    refine ⟨ordered.push pushed, ?_, ?_⟩
    · have placed := ActionQueue.place_perm ⟨due, e.actions.nextSerial, action⟩ e.actions.pending
      rw [ActionQueue.push_eq_ok pushed]
      exact placed.symm
    · rw [ActionQueue.push_eq_ok pushed]
      exact List.range_succ.symm
  · rw [refused, nothing]
    exact .of_actions ordered rfl

theorem ticked (ordered : e.actions.Ordered) (advances : e.Advances delta) :
    Ticked e delta (e.performed (.tick delta)) (e.tick delta).1 ∧
      Keeps e [] (e.performed (.tick delta)) (e.tick delta).1 := by
  obtain ⟨entries, e', performs, done, result⟩ := tick_of_advances advances
  have front := performs.front
  have serial := performs.serial
  dsimp only at front serial
  rw [actions_start] at front serial
  have ordered' := ordered.suffix front serial
  have those : e.performed (.tick delta) = entries := by
    rw [performed, result]
    rfl
  have perform_start (l : List Scheduled) : (e.start.perform l).stage =
      (perform { e.start with clock := ⟨_, advances.2⟩ } l).stage := by
    rw [stage_perform, stage_perform]
  rw [those, result]
  refine ⟨⟨?_, ?_, ?_, ?_, ?_, ?_, ?_⟩, ?_, ?_, ?_⟩
  · rw [clock_advance, performs.clock]
  · rw [clock_advance, actions_advance, performs.clock]
    exact congrArg (advance · delta) performs.effect
  · rw [actions_advance, front]
  · rw [clock_advance, performs.clock]
    exact performs.due
  · rw [actions_advance, ← front]
    exact ordered.ordered
  · intro l before part
    rw [perform_start]
    exact performs.alive l before part
  · rw [stage_advance, actions_advance, clock_advance]
    intro free
    exact ActionQueue.takeDue_eq_none ordered'.ordered (done.resolve_left free)
  · rw [actions_advance]
    exact ordered'
  · rw [actions_advance, ← front]
    rfl
  · rw [actions_advance, serial, List.map_nil, List.append_nil]

/-- Every call keeps the queue in order. -/
theorem keeps_call (ordered : e.actions.Ordered) (call : Call) :
    Keeps e (e.accepted call) (e.performed call) (e.call call) := by
  cases call with
  | init => exact .of_actions ordered (actions_init e)
  | tick delta =>
    by_cases advances : e.Advances delta
    · exact (ticked ordered advances).2
    · obtain ⟨nothing, same⟩ := tick_of_not_advances advances
      rw [nothing]
      refine .of_actions ordered ?_
      change (e.tick delta).1.actions = _
      rw [same]
      split
      · exact actions_init e
      · exact actions_start e
  | execute action => exact .of_actions ordered (actions_execute e action)
  | queue action due => exact keeps_queue ordered action due
  | queueNext action => exact keeps_queue ordered action e.clock
  | resources work => exact .of_actions ordered rfl

/-- So does any number of calls. -/
theorem keeps_history (ordered : e.actions.Ordered) (past : List Call) :
    Keeps e (e.history accepted past) (e.history performed past) (e.after past) := by
  induction past generalizing e with
  | nil => exact .of_actions ordered rfl
  | cons call rest ih =>
    have first := keeps_call ordered call
    exact first.trans (ih first.ordered)

/-- Every engine keeps its schedule, whatever is done to it. -/
theorem schedule (config : Config) (source : Source) (handlesCustom : Bool) (past : List Call) :
    Schedule (new config source handlesCustom) past := by
  have keeps : Keeps (new config source handlesCustom) _ _ _ :=
    keeps_history (ActionQueue.ordered_ofCapacity _) past
  have conserved := keeps.parts
  have numbered := keeps.serials
  rw [show (new config source handlesCustom).actions.pending = [] from rfl,
    List.append_nil] at conserved
  rw [show (new config source handlesCustom).actions.nextSerial = 0 from rfl,
    List.range_zero, List.nil_append] at numbered
  have count := congrArg List.length numbered
  rw [List.length_map, List.length_range] at count
  rw [← count] at numbered
  refine ⟨conserved, numbered, ?_, ?_, ?_⟩
  · rw [← (conserved.map Scheduled.serial).nodup_iff, numbered]
    exact List.nodup_range
  · intro delta advances
    exact (ticked keeps.ordered advances).1
  · intro delta idle
    exact (tick_of_not_advances idle).1

end Engine

end TileEngine
