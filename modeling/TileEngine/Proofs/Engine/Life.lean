import TileEngine.Proofs.Engine.Calls
import Mathlib.Algebra.GroupWithZero.Nat
import Mathlib.Logic.Relation

/-!
The life of an engine. Its stage goes forward from the first stage to the first tick, back
and forth between running and paused, and ends when the engine quits; the clock is the sum
of the times of all ticks that took place.
-/

namespace TileEngine

namespace Stage

/-- The moves from one stage to another. -/
inductive Move : Stage → Stage → Prop
  | init : Move .init .firstTick
  | start : Move .firstTick .running
  | pause : Move .running .paused
  | resume : Move .paused .running
  | quit (stage : Stage) : Move stage .quit

/-- The stage stays, or makes a move. -/
abbrev Goes : Stage → Stage → Prop := Relation.ReflGen Move

/-- From one stage over a list of further ones, the last of which is the other end. -/
inductive Path : Stage → List Stage → Stage → Prop
  | here (stage : Stage) : Path stage [] stage
  | step {first next last : Stage} {rest : List Stage} (goes : first.Goes next)
      (path : Path next rest last) : Path first (next :: rest) last

/-- The stages before any tick has taken place. -/
def Early (stage : Stage) : Prop := stage = .init ∨ stage = .firstTick

theorem Path.append {first mid last : Stage} {stages more : List Stage}
    (path : Path first stages mid) (path' : Path mid more last) :
    Path first (stages ++ more) last := by
  induction path with
  | here stage => exact path'
  | step goes _ ih => exact .step goes (ih path')

theorem goes_after (stage : Stage) (action : Action) : stage.Goes (stage.after action) := by
  cases action with
  | quit => exact .single (.quit stage)
  | custom id => exact .refl
  | pause => cases stage <;> first | exact .refl | exact .single .pause
  | resume => cases stage <;> first | exact .refl | exact .single .resume
  | pauseToggle =>
    cases stage <;> first | exact .refl | exact .single .pause | exact .single .resume

/-- No action leads into an early stage. -/
theorem early_of_after {stage : Stage} {action : Action} (early : (stage.after action).Early) :
    stage.Early := by
  cases action with
  | quit => simp [Early, after] at early
  | custom id => exact early
  | pause | resume | pauseToggle =>
    cases stage <;> simp_all [Early, after, withPause]

end Stage

namespace Engine

/-- The stages that an engine goes through during a call, up to the one after it. -/
def trail (e : Engine) : Call → List Stage
  | .tick delta =>
    ((e.performed (.tick delta)).scanl (fun e entry => e.execute entry.action) e.start).map stage ++
      [(e.tick delta).1.stage]
  | call => [(e.call call).stage]

/-- The time that a call lets pass. -/
def credited (e : Engine) : Call → List Duration
  | .tick delta => if e.Advances delta then [delta] else []
  | _ => []

/-- What is true of the stage and the clock of an engine after some calls. -/
structure Life (start : Engine) (past : List Call) : Prop where
  /-- From stage to stage the engine has only made the moves there are. -/
  moves : Stage.Path start.stage (start.history trail past) (start.after past).stage
  /-- Only a tick, or quitting, leads out of the stage before the first tick. -/
  first : (start.after past).stage = .firstTick →
    ∀ call, ((start.after past).call call).stage ≠ .firstTick →
      (∃ delta, call = .tick delta) ∨ call = .execute .quit
  /-- Nothing leads back from the end, and no tick changes anything there. -/
  quit : (start.after past).stage = .quit →
    (∀ call, ((start.after past).call call).stage = .quit) ∧
      ∀ delta, (start.after past).tick delta = (start.after past, .ok [])
  /-- Before any tick has taken place no time has passed. -/
  early : (start.after past).stage.Early →
    (start.after past).clock = Duration.zero ∧ (start.after past).frames = 0
  /-- The clock shows the time of all ticks that took place. -/
  clock : (start.after past).clock.nanos = ((start.history credited past).map Duration.nanos).sum

variable {e : Engine} {delta : Duration}

/-! ## Stages -/

theorem goes_start (e : Engine) : e.stage.Goes e.start.stage := by
  rw [stage_start]
  split
  · rename_i first
    rw [first]
    exact .single .start
  · exact .refl

theorem goes_init (e : Engine) : e.stage.Goes e.init.stage := by
  rw [stage_init]
  split
  · rename_i first
    rw [first]
    exact .single .init
  · exact .refl

theorem path_perform {stage : Stage} (goes : stage.Goes e.stage) (entries : List Scheduled) :
    Stage.Path stage ((entries.scanl (fun e entry => e.execute entry.action) e).map Engine.stage)
      (e.perform entries).stage := by
  induction entries generalizing stage e with
  | nil => exact .step goes (.here _)
  | cons first rest ih =>
    rw [List.scanl_cons, List.map_cons]
    refine .step goes (ih ?_)
    rw [stage_execute]
    exact e.stage.goes_after first.action

/-- After its actions a tick changes the stage only to initialize the engine. -/
theorem goes_tick (e : Engine) (delta : Duration) :
    (e.start.perform (e.performed (.tick delta))).stage.Goes (e.tick delta).1.stage := by
  by_cases advances : e.Advances delta
  · obtain ⟨entries, e', performs, -, result⟩ := tick_of_advances advances
    have those : e.performed (.tick delta) = entries := by
      rw [performed, result]
      rfl
    rw [those, result, stage_advance, performs.stage, stage_perform, stage_perform]
  · obtain ⟨nothing, same⟩ := tick_of_not_advances advances
    rw [nothing, same]
    split
    · rename_i first
      have stays : e.start = e := by rw [start, first, if_neg (by decide)]
      rw [stays]
      exact goes_init e
    · exact .refl

/-- Queueing concerns the queue only. -/
theorem queue_frame (e : Engine) (action : Action) (due : Duration) :
    ∃ q, (e.queue action due).toOption.getD e = { e with actions := q } := by
  rcases queue_eq e action due with ⟨q, -, queued, -⟩ | ⟨full, refused, -⟩
  · rw [queued]
    exact ⟨q, rfl⟩
  · rw [refused]
    exact ⟨e.actions, rfl⟩

theorem stage_queue (e : Engine) (action : Action) (due : Duration) :
    ((e.queue action due).toOption.getD e).stage = e.stage := by
  obtain ⟨q, same⟩ := queue_frame e action due
  rw [same]

theorem path_call (e : Engine) (call : Call) :
    Stage.Path e.stage (e.trail call) (e.call call).stage := by
  have single (goes : e.stage.Goes (e.call call).stage) :
      Stage.Path e.stage [(e.call call).stage] (e.call call).stage := .step goes (.here _)
  cases call with
  | init => exact single (goes_init e)
  | tick delta =>
    exact (path_perform (goes_start e) _).append (.step (goes_tick e delta) (.here _))
  | execute action =>
    refine single ?_
    rw [Engine.call, stage_execute]
    exact e.stage.goes_after action
  | queue action due =>
    refine single ?_
    rw [Engine.call, stage_queue]
  | queueNext action =>
    refine single ?_
    rw [Engine.call, queueNext, stage_queue]
  | resources work => exact single .refl

theorem path_history (e : Engine) (past : List Call) :
    Stage.Path e.stage (e.history trail past) (e.after past).stage := by
  induction past generalizing e with
  | nil => exact .here _
  | cons call rest ih => exact (path_call e call).append (ih _)

theorem stage_call_firstTick (first : e.stage = .firstTick) (call : Call)
    (left : (e.call call).stage ≠ .firstTick) :
    (∃ delta, call = .tick delta) ∨ call = .execute .quit := by
  cases call with
  | init =>
    rw [Engine.call, stage_init, first] at left
    contradiction
  | tick delta => exact .inl ⟨delta, rfl⟩
  | execute action =>
    rw [Engine.call, stage_execute, first] at left
    cases action with
    | quit => exact .inr rfl
    | pause | resume | pauseToggle | custom => contradiction
  | queue action due =>
    rw [Engine.call, stage_queue] at left
    contradiction
  | queueNext action =>
    rw [Engine.call, queueNext, stage_queue] at left
    contradiction
  | resources work => contradiction

theorem tick_of_quit (ended : e.stage = .quit) (delta : Duration) : e.tick delta = (e, .ok []) := by
  rw [tick, ended]

theorem stage_call_quit (ended : e.stage = .quit) (call : Call) : (e.call call).stage = .quit := by
  cases call with
  | init => rw [Engine.call, stage_init, ended, if_neg (by decide)]
  | tick delta => rw [Engine.call, tick_of_quit ended, ended]
  | execute action =>
    rw [Engine.call, stage_execute, ended]
    cases action <;> rfl
  | queue action due => rw [Engine.call, stage_queue, ended]
  | queueNext action => rw [Engine.call, queueNext, stage_queue, ended]
  | resources work => exact ended

/-! ## Time -/

theorem clock_queue (e : Engine) (action : Action) (due : Duration) :
    ((e.queue action due).toOption.getD e).clock = e.clock := by
  obtain ⟨q, same⟩ := queue_frame e action due
  rw [same]

theorem clock_idle (idle : ¬e.Advances delta) : (e.tick delta).1.clock = e.clock := by
  rw [(tick_of_not_advances idle).2]
  split
  · exact clock_init e
  · exact clock_start e

theorem clock_call (e : Engine) (call : Call) :
    (e.call call).clock.nanos = e.clock.nanos + ((e.credited call).map Duration.nanos).sum := by
  cases call with
  | init => exact congrArg Duration.nanos (clock_init e)
  | tick delta =>
    rw [Engine.call, credited]
    by_cases advances : e.Advances delta
    · obtain ⟨entries, e', performs, -, result⟩ := tick_of_advances advances
      rw [if_pos advances, result, clock_advance, performs.clock]
      rfl
    · rw [if_neg advances, clock_idle advances]
      rfl
  | execute action => exact congrArg Duration.nanos (clock_execute e action)
  | queue action due => exact congrArg Duration.nanos (clock_queue e action due)
  | queueNext action => exact congrArg Duration.nanos (clock_queue e action e.clock)
  | resources work => rfl

theorem clock_history (e : Engine) (past : List Call) :
    (e.after past).clock.nanos =
      e.clock.nanos + ((e.history credited past).map Duration.nanos).sum := by
  induction past generalizing e with
  | nil => rfl
  | cons call rest ih =>
    have last := ih (e.call call)
    rw [clock_call, Nat.add_assoc, ← List.sum_append, ← List.map_append] at last
    exact last

/-- No time has passed in an early stage. -/
def Fresh (e : Engine) : Prop := e.stage.Early → e.clock = Duration.zero ∧ e.frames = 0

theorem Fresh.of_same {e' : Engine} (fresh : e.Fresh) (early : e'.stage.Early → e.stage.Early)
    (clock : e'.clock = e.clock) (frames : e'.frames = e.frames) : e'.Fresh := by
  intro still
  rw [clock, frames]
  exact fresh (early still)

theorem Fresh.queue (fresh : e.Fresh) (action : Action) (due : Duration) :
    ((e.queue action due).toOption.getD e).Fresh := by
  obtain ⟨q, same⟩ := queue_frame e action due
  rw [same]
  exact fresh

theorem early_of_perform (entries : List Scheduled) (early : (e.perform entries).stage.Early) :
    e.stage.Early := by
  induction entries generalizing e with
  | nil => exact early
  | cons first rest ih =>
    have next := ih early
    rw [stage_execute] at next
    exact Stage.early_of_after next

/-- A tick that takes place leaves the early stages behind before its first action. -/
theorem late_of_performs {e' : Engine} {entries : List Scheduled} (advances : e.Advances delta)
    (performs : Performs { e.start with clock := ⟨_, advances.2⟩ } entries e') :
    ¬e'.stage.Early := by
  intro early
  rw [performs.stage] at early
  have started := early_of_perform entries early
  change e.start.stage.Early at started
  rw [stage_start] at started
  rcases (isRunning_iff e).mp advances.1 with stage | stage | stage <;>
    simp [stage, Stage.Early] at started

theorem Fresh.tick (fresh : e.Fresh) (delta : Duration) : (e.tick delta).1.Fresh := by
  by_cases advances : e.Advances delta
  · obtain ⟨entries, e', performs, -, result⟩ := tick_of_advances advances
    rw [result]
    intro early
    rw [stage_advance] at early
    exact absurd early (late_of_performs advances performs)
  · rw [(tick_of_not_advances advances).2]
    split
    · rename_i first
      exact fresh.of_same (fun _ => .inl first) (clock_init e) (frames_init e)
    · refine fresh.of_same ?_ (clock_start e) (frames_start e)
      intro early
      rw [stage_start] at early
      split at early
      · simp [Stage.Early] at early
      · exact early

theorem Fresh.call (fresh : e.Fresh) (call : Call) : (e.call call).Fresh := by
  cases call with
  | init =>
    refine fresh.of_same ?_ (clock_init e) (frames_init e)
    intro early
    change e.init.stage.Early at early
    rw [stage_init] at early
    split at early
    · rename_i first
      exact .inl first
    · exact early
  | tick delta => exact fresh.tick delta
  | execute action =>
    refine fresh.of_same ?_ (clock_execute e action) (frames_execute e action)
    intro early
    change (e.execute action).stage.Early at early
    rw [stage_execute] at early
    exact Stage.early_of_after early
  | queue action due => exact fresh.queue action due
  | queueNext action => exact fresh.queue action e.clock
  | resources work => exact fresh

theorem Fresh.after (fresh : e.Fresh) (past : List Call) : (e.after past).Fresh := by
  induction past generalizing e with
  | nil => exact fresh
  | cons call rest ih => exact ih (fresh.call call)

/-- Every engine has such a life, whatever is done to it. -/
theorem life (config : Config) (source : Source) (handlesCustom : Bool) (past : List Call) :
    Life (new config source handlesCustom) past := by
  have fresh : (new config source handlesCustom).Fresh := fun _ => ⟨rfl, rfl⟩
  refine ⟨path_history _ past, ?_, ?_, fresh.after past, ?_⟩
  · intro first call left
    exact stage_call_firstTick first call left
  · intro ended
    exact ⟨stage_call_quit ended, tick_of_quit ended⟩
  · have sum := clock_history (new config source handlesCustom) past
    rw [sum]
    exact Nat.zero_add _

end Engine

end TileEngine
