import TileEngine.Proofs.Cache.Flight

/-!
What one call comes to when nobody else makes a turn before it is done: a table of
slots and results, and for each line of it the turns of a flight.
-/

namespace TileEngine

/-- What a call finds in the slot of an entry, what it leaves there, and what it returns.
The limit is the one on waiting, if there is somebody to ask for it. -/
inductive Slot.Turned (key : Key) (limit : Option Duration) (before : Slot) :
    Slot → Except Failure PayloadId → Prop
  | took {p : PayloadId} (loaded : before.state = .loaded p) : Turned key limit before before (.ok p)
  | waited {d : Duration} (loading : before.state = .loading) (set : limit = some d) :
      Turned key limit before before (.error (.error (.timedOut key.name)))
  | stuck : Turned key limit before before (.error .stuck)
  | produced (empty : before.state = .empty) (p : PayloadId) :
      Turned key limit before (before.claimed.filled p) (.ok p)
  | failed (empty : before.state = .empty) :
      Turned key limit before before.claimed.failed (.error (.error (.loadFailed key)))
  | panicked (empty : before.state = .empty) (message : String) :
      Turned key limit before before.claimed.failed (.error (.panic message))
  | lost (empty : before.state = .empty) : Turned key limit before before.claimed (.error .stuck)

namespace Slot.Turned

variable {key : Key} {limit : Option Duration} {before after : Slot}
  {r : Except Failure PayloadId}

theorem loaded {p : PayloadId} (turned : Turned key limit before after r) (given : r = .ok p) :
    after.state = .loaded p := by
  cases turned with
  | took loaded =>
    cases given
    exact loaded
  | produced empty q =>
    cases given
    rfl
  | waited loading set => contradiction
  | stuck => contradiction
  | failed empty => contradiction
  | panicked empty message => contradiction
  | lost empty => contradiction

end Slot.Turned

namespace Flight

variable {s : Flight} {after : Slot} {r : Except Failure PayloadId}

/-- A call has just arrived. -/
def joined (s : Flight) : Flight := { s with calls := s.calls ++ [⟨.ready, none, s.now⟩] }

theorem joined_last (s : Flight) :
    s.joined.calls[s.calls.length]? = some ⟨.ready, none, s.now⟩ := List.getElem?_concat_length

theorem put_here {i : Nat} {old : Call} (here : s.calls[i]? = some old) (new : Call) :
    (s.put i new).calls[i]? = some new := by
  obtain ⟨bound, -⟩ := List.getElem?_eq_some_iff.mp here
  rw [put, List.getElem?_set, if_pos rfl, if_pos bound]

theorem finish_here {i : Nat} {old : Call} (here : s.calls[i]? = some old) (slot : Slot)
    (r : Except Failure PayloadId) :
    (s.finish i old slot r).calls[i]? = some { old with phase := .done r } := by
  have place := put_here here { old with phase := .done r }
  rw [put] at place
  rw [finish, List.getElem?_map, place]
  rfl

theorem expired_of_limit {d : Duration} (set : (if s.alive then s.limit else none) = some d)
    {call : Call} (over_time : d.nanos ≤ s.now - call.started) : s.expired call = true := by
  rw [expired, set]
  exact decide_eq_true over_time

/-- The turns of a call that finds an entry empty, up to its load. -/
theorem run_claim (s : Flight) (empty : s.slot.state = .empty) :
    ∃ t call, Run s t ∧ t.key = s.key ∧ t.slot = s.slot.claimed ∧
      t.calls[s.calls.length]? = some call ∧ call.phase = .loading := by
  have here := s.joined_last
  have move : s.joined.slot.look none = .claim := by
    refine Slot.look_eq_claim_iff.mpr ⟨empty, ?_⟩
    intro n since
    contradiction
  have run : Run s (s.joined.look s.calls.length ⟨.ready, none, s.now⟩) :=
    (Relation.ReflTransGen.single .arrive).tail (.look _ _ here rfl)
  refine ⟨_, _, run, rfl, if_pos move, put_here here _, ?_⟩
  rw [looked, move]

/-- Every line of the table is a run of one more call, which comes back unless it waits
for ever. -/
theorem run_of_turned (turned : s.slot.Turned s.key (if s.alive then s.limit else none) after r) :
    ∃ t, Run s t ∧ t.slot = after ∧
      (r = .error .stuck ∨
        ∃ call, t.calls[s.calls.length]? = some call ∧ call.phase = .done r) := by
  have here := s.joined_last
  have arrive : Run s s.joined := .single .arrive
  cases turned with
  | @took p loaded =>
    have move : s.joined.slot.look none = .take p := Slot.look_eq_take_iff.mpr loaded
    refine ⟨_, arrive.tail (.look _ _ here rfl), ?_, .inr ⟨_, put_here here _, ?_⟩⟩
    · rw [look, move, if_neg (by simp)]
      rfl
    · rw [looked, move]
  | @waited d loading set =>
    -- The call looks only after its time is up; it need not be blocked for that.
    obtain ⟨t, run, key, slot, here, late⟩ : ∃ t, Run s t ∧ t.key = s.key ∧ t.slot = s.slot ∧
        t.calls[s.calls.length]? = some ⟨.ready, none, s.now⟩ ∧
        t.expired ⟨.ready, none, s.now⟩ = true := by
      refine ⟨_, arrive.tail (.elapse d.nanos), rfl, rfl, here, ?_⟩
      apply expired_of_limit
      · exact set
      · change d.nanos ≤ s.now + d.nanos - s.now
        omega
    have move : t.slot.look none = .wait t.slot.failures := by
      refine Slot.look_eq_wait_iff.mpr ⟨slot ▸ loading, rfl, ?_⟩
      intro n since
      contradiction
    refine ⟨_, run.tail (.look _ _ here rfl), ?_, .inr ⟨_, put_here here _, ?_⟩⟩
    · rw [look, move, if_neg (by simp)]
      exact slot
    · rw [looked, move, ← key]
      dsimp only
      rw [if_pos late]
  | stuck => exact ⟨s, .refl, rfl, .inl rfl⟩
  | produced empty p =>
    obtain ⟨t, call, run, -, slot, here, loading⟩ := run_claim s empty
    refine ⟨_, run.tail (.produce _ call p here loading), ?_, .inr ⟨_, finish_here here _ _, rfl⟩⟩
    exact congrArg (Slot.filled · p) slot
  | failed empty =>
    obtain ⟨t, call, run, key, slot, here, loading⟩ := run_claim s empty
    refine ⟨_, run.tail (.fail _ call here loading), congrArg Slot.failed slot,
      .inr ⟨_, finish_here here _ _, ?_⟩⟩
    rw [key]
  | panicked empty message =>
    obtain ⟨t, call, run, -, slot, here, loading⟩ := run_claim s empty
    refine ⟨_, run.tail (.panic _ call message here loading), ?_,
      .inr ⟨_, finish_here here _ _, rfl⟩⟩
    change (if t.slot.state = .loading then t.slot.failed else t.slot) = _
    rw [slot]
    exact if_pos rfl
  | lost empty =>
    obtain ⟨t, call, run, -, slot, -, -⟩ := run_claim s empty
    exact ⟨t, run, slot, .inl rfl⟩

end Flight

end TileEngine
