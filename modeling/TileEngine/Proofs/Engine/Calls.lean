import TileEngine.Engine
import TileEngine.Proofs.Engine.Queue

/-!
What may be done to an engine from outside, and what comes of many calls one after the
other. A tick is taken apart once here: it takes place or it does not, and when it does,
the actions at the front of the queue are performed until the engine quits or nothing is
due any more.
-/

namespace TileEngine

/-- The stage after an action. -/
def Stage.after (stage : Stage) : Action → Stage
  | .quit => .quit
  | .pause => stage.withPause true
  | .resume => stage.withPause false
  | .pauseToggle => stage.withPause (stage != .paused)
  | .custom _ => stage

/-- What may be done to an engine. -/
inductive Engine.Call where
  | init
  | tick (delta : Duration)
  | execute (action : Action)
  | queue (action : Action) (due : Duration)
  | queueNext (action : Action)
  /-- Whatever is done to the resources between other calls. -/
  | resources (work : Cache → Cache)

namespace Engine

/-- The engine after a call. -/
def call (e : Engine) : Call → Engine
  | .init => e.init
  | .tick delta => (e.tick delta).1
  | .execute action => e.execute action
  | .queue action due => (e.queue action due).toOption.getD e
  | .queueNext action => (e.queueNext action).toOption.getD e
  | .resources work => { e with cache := work e.cache }

/-- The engine after many calls. -/
def after (e : Engine) (calls : List Call) : Engine := calls.foldl call e

/-- What many calls bring about, each at the engine it finds. -/
def history {α : Type} (f : Engine → Call → List α) : Engine → List Call → List α
  | _, [] => []
  | e, call :: rest => f e call ++ history f (e.call call) rest

/-- An action as the queue accepts it, unless it is full. -/
def admitted (e : Engine) (action : Action) (due : Duration) : List Scheduled :=
  match e.queue action due with
  | .ok _ => [⟨due, e.actions.nextSerial, action⟩]
  | .error _ => []

/-- The actions that a call has accepted. -/
def accepted (e : Engine) : Call → List Scheduled
  | .queue action due => e.admitted action due
  | .queueNext action => e.admitted action e.clock
  | _ => []

/-- The queued actions that a call performs. -/
def performed (e : Engine) : Call → List Scheduled
  | .tick delta => (e.tick delta).2.toOption.getD []
  | _ => []

/-- Performs actions one after the other. -/
def perform (e : Engine) (entries : List Scheduled) : Engine :=
  entries.foldl (fun e entry => e.execute entry.action) e

/-- A tick takes place: the engine was initialized and has not quit, and its clock has room
for the time that passes. -/
def Advances (e : Engine) (delta : Duration) : Prop :=
  e.isRunning = true ∧ e.clock.nanos + delta.nanos < Duration.bound

instance (e : Engine) (delta : Duration) : Decidable (e.Advances delta) :=
  inferInstanceAs (Decidable (_ ∧ _))

variable {e : Engine} {delta : Duration}

/-! ## Single actions -/

@[simp] theorem stage_execute (e : Engine) (action : Action) :
    (e.execute action).stage = e.stage.after action := by
  cases action <;> rfl

@[simp] theorem actions_execute (e : Engine) (action : Action) :
    (e.execute action).actions = e.actions := by
  cases action <;> rfl

@[simp] theorem clock_execute (e : Engine) (action : Action) :
    (e.execute action).clock = e.clock := by
  cases action <;> rfl

@[simp] theorem frames_execute (e : Engine) (action : Action) :
    (e.execute action).frames = e.frames := by
  cases action <;> rfl

theorem stage_perform (e : Engine) (entries : List Scheduled) :
    (e.perform entries).stage = entries.foldl (fun stage a => stage.after a.action) e.stage := by
  induction entries generalizing e with
  | nil => rfl
  | cons first rest ih =>
    rw [List.foldl_cons, ← stage_execute]
    exact ih _

@[simp] theorem clock_perform (e : Engine) (entries : List Scheduled) :
    (e.perform entries).clock = e.clock := by
  induction entries generalizing e with
  | nil => rfl
  | cons first rest ih => exact (ih _).trans (clock_execute e first.action)

/-- Actions do not look at the queue. -/
theorem perform_actions (e : Engine) (q : ActionQueue) (entries : List Scheduled) :
    perform { e with actions := q } entries = { e.perform entries with actions := q } := by
  induction entries generalizing e with
  | nil => rfl
  | cons first rest ih =>
    have same : execute { e with actions := q } first.action =
        { e.execute first.action with actions := q } := by
      cases first.action <;> rfl
    rw [perform, List.foldl_cons, same]
    exact ih _

/-- An action is put into the queue with the next number, or refused. -/
theorem queue_eq (e : Engine) (action : Action) (due : Duration) :
    (∃ q, e.actions.push action due = .ok q ∧ e.queue action due = .ok { e with actions := q } ∧
        e.admitted action due = [⟨due, e.actions.nextSerial, action⟩]) ∨
      ∃ full, e.queue action due = .error full ∧ e.admitted action due = [] := by
  unfold admitted queue
  cases e.actions.push action due with
  | ok q => exact .inl ⟨q, rfl, rfl, rfl⟩
  | error full => exact .inr ⟨full, rfl, rfl⟩

/-! ## Ticks -/

/-- Some actions at the front of the queue were performed, all of them due. Before the last
one of them the engine had not quit. -/
structure Performs (e : Engine) (entries : List Scheduled) (e' : Engine) : Prop where
  front : e.actions.pending = entries ++ e'.actions.pending
  serial : e'.actions.nextSerial = e.actions.nextSerial
  due : ∀ a ∈ entries, a.due.nanos ≤ e.clock.nanos
  effect : e' = { e.perform entries with actions := e'.actions }
  alive : ∀ front, front <+: entries → front ≠ entries → (e.perform front).stage ≠ .quit

namespace Performs

variable {e' : Engine} {entries : List Scheduled}

theorem nothing (e : Engine) : Performs e [] e := by
  refine ⟨rfl, rfl, fun _ member => absurd member List.not_mem_nil, rfl, ?_⟩
  intro front before part
  exact absurd (List.prefix_nil.mp before) part

theorem clock (performs : Performs e entries e') : e'.clock = e.clock := by
  rw [performs.effect]
  exact clock_perform e entries

theorem stage (performs : Performs e entries e') : e'.stage = (e.perform entries).stage := by
  rw [performs.effect]

/-- The first action of the queue comes before all that are performed after it. -/
theorem first {entry : Scheduled} {q : ActionQueue} (free : e.stage ≠ .quit)
    (taken : e.actions.takeDue e.clock = some (entry, q))
    (others : Performs ({ e with actions := q }.execute entry.action) entries e') :
    Performs e (entry :: entries) e' := by
  obtain ⟨pending, now, same⟩ := ActionQueue.takeDue_eq_some taken
  refine ⟨?_, ?_, ?_, ?_, ?_⟩
  · have front := others.front
    rw [actions_execute] at front
    rw [pending, front, List.cons_append]
  · rw [others.serial, actions_execute, same]
  · intro a member
    rcases List.mem_cons.mp member with rfl | later
    · exact now
    · have due := others.due a later
      rwa [clock_execute] at due
  · have effect := others.effect
    change e' = { perform { e with actions := q } (entry :: entries) with actions := e'.actions } at effect
    rwa [perform_actions] at effect
  · intro front before part
    cases front with
    | nil => exact free
    | cons a front =>
      obtain ⟨rfl, before'⟩ := List.cons_prefix_cons.mp before
      have quiet := others.alive front before' fun same => part (same ▸ rfl)
      rw [stage_perform, stage_execute] at quiet
      rwa [stage_perform]

end Performs

theorem performs_performSteps (steps : Nat) (e : Engine) :
    Performs e (e.performSteps steps).2 (e.performSteps steps).1 := by
  induction steps generalizing e with
  | zero => exact .nothing e
  | succ steps ih =>
    rw [performSteps]
    split
    · exact .nothing e
    · rename_i free
      split
      · exact .nothing e
      · rename_i entry q taken
        exact .first free taken (ih _)

/-- Given a step for each pending action, only the end of the engine leaves anything due. -/
theorem performSteps_done (steps : Nat) (e : Engine) (enough : e.actions.len ≤ steps) :
    (e.performSteps steps).1.stage = .quit ∨
      (e.performSteps steps).1.actions.takeDue e.clock = none := by
  induction steps generalizing e with
  | zero =>
    have empty : e.actions.pending = [] := List.eq_nil_of_length_eq_zero (Nat.le_zero.mp enough)
    right
    rw [performSteps, ActionQueue.takeDue, empty]
  | succ steps ih =>
    rw [performSteps]
    split
    · rename_i ended
      exact .inl ended
    · split
      · rename_i nothing
        exact .inr nothing
      · rename_i entry q taken
        have fewer : ({ e with actions := q }.execute entry.action).actions.len ≤ steps := by
          have count := congrArg List.length (ActionQueue.takeDue_eq_some taken).1
          rw [ActionQueue.len, count] at enough
          rw [actions_execute]
          exact Nat.le_of_succ_le_succ enough
        have done := ih _ fewer
        rwa [clock_execute] at done

@[simp] theorem clock_start (e : Engine) : e.start.clock = e.clock := by
  unfold start
  split <;> rfl

@[simp] theorem actions_start (e : Engine) : e.start.actions = e.actions := by
  unfold start
  split <;> rfl

@[simp] theorem frames_start (e : Engine) : e.start.frames = e.frames := by
  unfold start
  split <;> rfl

theorem stage_start (e : Engine) :
    e.start.stage = if e.stage = .firstTick then .running else e.stage := by
  unfold start
  split <;> rfl

@[simp] theorem actions_init (e : Engine) : e.init.actions = e.actions := by
  unfold init
  split <;> rfl

@[simp] theorem clock_init (e : Engine) : e.init.clock = e.clock := by
  unfold init
  split <;> rfl

@[simp] theorem frames_init (e : Engine) : e.init.frames = e.frames := by
  unfold init
  split <;> rfl

theorem stage_init (e : Engine) :
    e.init.stage = if e.stage = .init then .firstTick else e.stage := by
  unfold init
  split <;> rfl

@[simp] theorem actions_advance (e : Engine) (delta : Duration) :
    (e.advance delta).actions = e.actions := by
  unfold advance
  split <;> rfl

@[simp] theorem clock_advance (e : Engine) (delta : Duration) :
    (e.advance delta).clock = e.clock := by
  unfold advance
  split <;> rfl

@[simp] theorem stage_advance (e : Engine) (delta : Duration) :
    (e.advance delta).stage = e.stage := by
  unfold advance
  split <;> rfl

theorem isRunning_iff (e : Engine) :
    e.isRunning = true ↔ e.stage = .firstTick ∨ e.stage = .running ∨ e.stage = .paused := by
  unfold isRunning
  cases e.stage <;> simp

theorem tick_eq_performDue (advances : e.Advances delta) :
    e.tick delta =
      ((performDue { e.start with clock := ⟨_, advances.2⟩ }).1.advance delta,
        .ok (performDue { e.start with clock := ⟨_, advances.2⟩ }).2) := by
  have sum : e.start.clock.add? delta = some ⟨_, advances.2⟩ := by
    rw [clock_start, Duration.add?, Duration.ofNanos?, dif_pos advances.2]
  unfold tick
  rcases (isRunning_iff e).mp advances.1 with stage | stage | stage <;>
  · rw [stage]
    simp only [sum]

/-- A tick that takes place: time passes, due actions are performed, and then the resources
are told. -/
theorem tick_of_advances (advances : e.Advances delta) :
    ∃ entries e', Performs { e.start with clock := ⟨_, advances.2⟩ } entries e' ∧
      (e'.stage = .quit ∨ e'.actions.takeDue e'.clock = none) ∧
      e.tick delta = (e'.advance delta, .ok entries) := by
  have performs := performs_performSteps e.start.actions.len
    { e.start with clock := ⟨_, advances.2⟩ }
  have done := performSteps_done e.start.actions.len
    { e.start with clock := ⟨_, advances.2⟩ } (Nat.le_refl _)
  refine ⟨_, _, performs, ?_, tick_eq_performDue advances⟩
  rwa [performs.clock]

/-- A tick that does not take place performs nothing. At most the engine is initialized, or
leaves the stage before the first tick. -/
theorem tick_of_not_advances (idle : ¬e.Advances delta) :
    e.performed (.tick delta) = [] ∧
      (e.tick delta).1 = if e.stage = .init then e.init else e.start := by
  unfold performed tick
  cases stage : e.stage with
  | init => exact ⟨rfl, (if_pos rfl).symm⟩
  | quit =>
    have stays : e.start = e := by rw [start, stage, if_neg (by decide)]
    exact ⟨rfl, by rw [stays, if_neg (by decide)]⟩
  | firstTick | running | paused =>
    have overflow : e.start.clock.add? delta = none := by
      rw [clock_start, Duration.add?, Duration.ofNanos?, dif_neg]
      intro fits
      exact idle ⟨(isRunning_iff e).mpr (by simp [stage]), fits⟩
    simp only [overflow]
    exact ⟨rfl, rfl⟩

end Engine

end TileEngine
