import TileEngine.Proofs.Engine.Life

/-!
Ticks for which the clock has no room. Such a tick fails after the engine has left the stage
before its first tick, and before any action is performed. It changes nothing all the same: in
that stage no time has passed yet, so there is room for every tick.
-/

namespace TileEngine

namespace Engine

/-- The engines there may be: new ones, those after a call, and those that a tick left behind
which broke off among its actions, because whoever takes custom actions panicked. -/
inductive Reached : Engine → Prop
  | new (config : Config) (source : Source) (handlesCustom : Bool) :
    Reached (new config source handlesCustom)
  | call {e : Engine} (call : Call) (before : Reached e) : Reached (e.call call)
  | broken {e : Engine} {delta : Duration} (advances : e.Advances delta) (steps : Nat)
    (before : Reached e) :
    Reached (performSteps steps { e.start with clock := ⟨_, advances.2⟩ }).1

variable {e : Engine} {delta : Duration}

theorem Reached.after (reached : Reached e) (calls : List Call) : Reached (e.after calls) := by
  induction calls generalizing e with
  | nil => exact reached
  | cons call rest ih => exact ih (reached.call call)

theorem Reached.fresh (reached : Reached e) : e.Fresh := by
  induction reached with
  | new config source handlesCustom => exact fun _ => ⟨rfl, rfl⟩
  | call call _ ih => exact ih.call call
  | broken advances steps _ _ =>
    intro early
    exact absurd early (late_of_performs advances (performs_performSteps steps _))

/-- An engine whose clock has no room for some time is past its first tick. -/
theorem Fresh.late (fresh : e.Fresh) (overflow : Duration.bound ≤ e.clock.nanos + delta.nanos) :
    ¬e.stage.Early := by
  intro early
  rw [(fresh early).1, show Duration.zero.nanos = 0 from rfl, Nat.zero_add] at overflow
  exact absurd delta.nanos_lt (Nat.not_lt.mpr overflow)

/-- The step out of the stage before the first tick changes nothing later on. -/
theorem start_of_late (late : ¬e.stage.Early) : e.start = e := by
  unfold start
  rw [if_neg]
  intro first
  exact late (.inr first)

/-- A tick for which the clock has no room does nothing at all. -/
theorem tick_of_no_room (fresh : e.Fresh) (overflow : Duration.bound ≤ e.clock.nanos + delta.nanos) :
    (e.tick delta).1 = e ∧ e.performed (.tick delta) = [] := by
  have late := fresh.late overflow
  have idle : ¬e.Advances delta := fun advances =>
    absurd advances.2 (Nat.not_lt.mpr overflow)
  obtain ⟨nothing, same⟩ := tick_of_not_advances idle
  rw [if_neg fun first => late (.inl first), start_of_late late] at same
  exact ⟨same, nothing⟩

/-- A tick that finds an engine neither new nor at its end fails if its clock has no room. -/
theorem tick_fails_of_no_room (late : ¬e.stage.Early) (alive : e.stage ≠ .quit)
    (overflow : Duration.bound ≤ e.clock.nanos + delta.nanos) :
    (e.tick delta).2 = .error .clockOverflow := by
  have sum : e.start.clock.add? delta = none := by
    rw [clock_start, Duration.add?, Duration.ofNanos?, dif_neg (Nat.not_lt.mpr overflow)]
  unfold tick
  cases stage : e.stage with
  | init => exact absurd (.inl stage) late
  | quit => exact absurd stage alive
  | firstTick | running | paused => simp only [sum]

/-- A tick fails only for want of room on the clock, before the engine has quit. -/
theorem no_room_of_tick_fails {failure : TickError} (failed : (e.tick delta).2 = .error failure) :
    e.stage ≠ .quit ∧ Duration.bound ≤ e.clock.nanos + delta.nanos := by
  have alive : e.stage ≠ .quit := by
    intro ended
    rw [tick_of_quit ended] at failed
    contradiction
  have begun : e.stage ≠ .init := by
    intro first
    rw [tick, first] at failed
    contradiction
  refine ⟨alive, ?_⟩
  by_contra fits
  have running : e.isRunning = true := by simp [isRunning, begun, alive]
  obtain ⟨entries, e', -, -, result⟩ := tick_of_advances ⟨running, Nat.not_le.mp fits⟩
  rw [result] at failed
  contradiction

/-- A tick for which the clock has no room fails, unless the engine has quit, and in no other way
does a tick fail. It leaves the whole engine as it was, with its stage, clock, frames and queue, and
with its resources and what is on record of them; none of the actions that are due is performed. -/
theorem tick_of_overflow (reached : Reached e) (delta : Duration) :
    ((∃ failure, (e.tick delta).2 = .error failure) ↔
      e.stage ≠ .quit ∧ Duration.bound ≤ e.clock.nanos + delta.nanos) ∧
    (Duration.bound ≤ e.clock.nanos + delta.nanos →
      (e.tick delta).1 = e ∧ e.performed (.tick delta) = []) := by
  refine ⟨⟨?_, ?_⟩, tick_of_no_room reached.fresh⟩
  · rintro ⟨failure, failed⟩
    exact no_room_of_tick_fails failed
  · rintro ⟨alive, overflow⟩
    exact ⟨_, tick_fails_of_no_room (reached.fresh.late overflow) alive overflow⟩

/-- At the last moment there is, with an action waiting that is due, one nanosecond is too much. -/
theorem tick_of_overflow_last_moment :
    let last : Duration := ⟨Duration.bound - 1, by decide⟩
    let instant : Duration := ⟨1, by decide⟩
    let e := (new Config.standard (.table []) false).after [.init, .tick last, .queueNext .quit]
    Reached e ∧ e.actions.len = 1 ∧ (∃ failure, (e.tick instant).2 = .error failure) ∧
      (e.tick instant).1 = e ∧ e.performed (.tick instant) = [] := by
  intro last instant e
  have reached : Reached e := (Reached.new _ _ _).after _
  have overflow : Duration.bound ≤ e.clock.nanos + instant.nanos := by decide +kernel
  obtain ⟨fails, same⟩ := tick_of_overflow reached instant
  exact ⟨reached, by decide +kernel, fails.mpr ⟨by decide +kernel, overflow⟩, same overflow⟩

end Engine

end TileEngine
