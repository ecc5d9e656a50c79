import TileEngine.Proofs.Cache.Flight

/-!
Calls that wait for a load. A call recognises the end of its load by the number of
failures alone, while other calls may fail, claim and finish loads before it comes
to look. What the number tells is kept here along the states that a flight has
gone through: a call that gives up has waited for a load that has failed.
-/

namespace TileEngine

namespace Flight

/-- A flight with all states that it has gone through, the last one first. -/
inductive Trace (first : Flight) : List Flight → Flight → Prop
  | start : Trace first [] first
  | step {past : List Flight} {s t : Flight} (before : Trace first past s) (last : Step s t) :
      Trace first (s :: past) t

theorem Trace.run {first s : Flight} {past : List Flight} (trace : Trace first past s) :
    Run first s := by
  induction trace with
  | start => exact .refl
  | step _ last ih => exact ih.tail last

/-- What becomes of a call in one step. -/
inductive Next (s : Flight) (old : Call) : Call → Prop
  | same : Next s old old
  | woken (blocked : old.phase = .blocked) : Next s old { old with phase := .ready }
  | looked (ready : old.phase = .ready) : Next s old (s.looked old)
  | ended (r : Except Failure PayloadId) (loading : old.phase = .loading) :
      Next s old { old with phase := .done r }

/-- How a load ends that gives no payload. -/
def Failed (key : Key) (failure : Failure) : Prop :=
  failure = .error (.loadFailed key) ∨ ∃ message, failure = .panic message

variable {s t : Flight} {i j : Nat} {call old : Call}

theorem next_notified (s : Flight) (call : Call) : Next s call call.notified := by
  unfold Call.notified
  cases phase : call.phase with
  | blocked => exact .woken phase
  | ready => exact .same
  | loading => exact .same
  | done r => exact .same

private theorem getElem?_put (here : s.calls[i]? = some old) (j : Nat) (new : Call) :
    (s.calls.set j new)[i]? = some (if j = i then new else old) := by
  rw [List.getElem?_set]
  by_cases same : j = i
  · rw [if_pos same, if_pos same, if_pos (same ▸ (List.getElem?_eq_some_iff.mp here).1)]
  · rw [if_neg same, if_neg same, here]

private theorem next_put (here : s.calls[i]? = some old) (at_j : s.calls[j]? = some call)
    {new : Call} (next : Next s call new) :
    ∃ new', (s.calls.set j new)[i]? = some new' ∧ Next s old new' := by
  refine ⟨_, getElem?_put here j new, ?_⟩
  split
  · rename_i same
    rw [same, here] at at_j
    rw [Option.some.inj at_j]
    exact next
  · exact .same

private theorem next_finish (here : s.calls[i]? = some old) (at_j : s.calls[j]? = some call)
    (loading : call.phase = .loading) (slot : Slot) (r : Except Failure PayloadId) :
    ∃ new, (s.finish j call slot r).calls[i]? = some new ∧ Next s old new := by
  refine ⟨Call.notified (if j = i then { call with phase := .done r } else old), ?_, ?_⟩
  · rw [finish, List.getElem?_map, getElem?_put here, Option.map_some]
  · split
    · rename_i same
      rw [same, here] at at_j
      rw [Option.some.inj at_j]
      exact .ended r loading
    · exact next_notified s old

/-- No call is lost, and each one does what a call may do. -/
theorem Step.next (step : Step s t) (here : s.calls[i]? = some old) :
    ∃ new, t.calls[i]? = some new ∧ Next s old new := by
  cases step with
  | arrive =>
    obtain ⟨bound, -⟩ := List.getElem?_eq_some_iff.mp here
    exact ⟨old, (List.getElem?_append_left bound).trans here, .same⟩
  | look j call at_j ready => exact next_put here at_j (.looked ready)
  | wake j call at_j blocked => exact next_put here at_j (.woken blocked)
  | produce j call p at_j loading => exact next_finish here at_j loading _ _
  | fail j call at_j loading => exact next_finish here at_j loading _ _
  | panic j call message at_j loading => exact next_finish here at_j loading _ _
  | elapse nanos => exact ⟨old, here, .same⟩
  | close => exact ⟨old, here, .same⟩

/-- A call that was not there has just arrived. -/
theorem Step.arrived (step : Step s t) (absent : s.calls[i]? = none)
    (here : t.calls[i]? = some call) : call = ⟨.ready, none, s.now⟩ := by
  rw [List.getElem?_eq_none_iff] at absent
  obtain ⟨bound, value⟩ := List.getElem?_eq_some_iff.mp here
  cases step with
  | arrive =>
    have last : i = s.calls.length := by
      rw [List.length_append, List.length_singleton] at bound
      omega
    rw [← value]
    simp [last]
  | look j call at_j ready =>
    rw [Flight.look, put, List.length_set] at bound
    omega
  | wake j call at_j blocked =>
    rw [put, List.length_set] at bound
    omega
  | produce j call p at_j loading =>
    rw [finish, List.length_map, List.length_set] at bound
    omega
  | fail j call at_j loading =>
    rw [finish, List.length_map, List.length_set] at bound
    omega
  | panic j call message at_j loading =>
    rw [finish, List.length_map, List.length_set] at bound
    omega
  | elapse nanos => exact absurd bound (Nat.not_lt.mpr absent)
  | close => exact absurd bound (Nat.not_lt.mpr absent)

/-- Where a call comes from. -/
theorem Step.previous (step : Step s t) (here : t.calls[i]? = some call) :
    call = ⟨.ready, none, s.now⟩ ∨ ∃ old, s.calls[i]? = some old ∧ Next s old call := by
  cases before : s.calls[i]? with
  | none => exact .inl (step.arrived before here)
  | some old =>
    obtain ⟨new, after, next⟩ := step.next before
    rw [here, Option.some.injEq] at after
    exact .inr ⟨old, rfl, after ▸ next⟩

theorem Step.done (step : Step s t) (here : s.calls[i]? = some call)
    {r : Except Failure PayloadId} (result : call.phase = .done r) : t.calls[i]? = some call := by
  obtain ⟨new, after, next⟩ := step.next here
  cases next with
  | same => exact after
  | woken blocked =>
    rw [result] at blocked
    contradiction
  | looked ready =>
    rw [result] at ready
    contradiction
  | ended r loading =>
    rw [result] at loading
    contradiction

namespace Sound

/-- Two calls that load are one. -/
theorem loading_unique (sound : Sound s) {other : Call} (here : s.calls[i]? = some call)
    (loading : call.phase = .loading) (there : s.calls[j]? = some other)
    (loads : other.phase = .loading) : j = i := by
  by_contra different
  have count := running_put there { other with phase := .ready }
  have one : other.running = true := by rw [Call.running, loads]
  have still : (s.put j { other with phase := .ready }).calls[i]? = some call :=
    (getElem?_put here j _).trans (by rw [if_neg different])
  have busy : 0 < (s.put j { other with phase := .ready }).running := by
    refine List.countP_pos_iff.mpr ⟨call, List.mem_of_getElem? still, ?_⟩
    rw [Call.running, loading]
  rw [one, sound.single, if_pos (sound.state_of_loading here loading)] at count
  have idle : Call.running { other with phase := .ready } = false := rfl
  rw [idle] at count
  simp only [Bool.toNat_true, Bool.toNat_false] at count
  omega

/-- A load goes on, or it gives a payload, or it fails and leaves the slot empty. -/
theorem loading_step (sound : Sound s) (step : Step s t) (here : s.calls[i]? = some call)
    (loading : call.phase = .loading) :
    (t.calls[i]? = some call ∧ t.slot = s.slot) ∨
      (∃ p, t.slot.state = .loaded p ∧
        t.calls[i]? = some { call with phase := .done (.ok p) }) ∨
      (t.slot.state = .empty ∧ ∃ failure, Failed s.key failure ∧
        t.calls[i]? = some { call with phase := .done (.error failure) }) := by
  have busy := sound.state_of_loading here loading
  have finished {j : Nat} {other : Call} {slot : Slot} {r : Except Failure PayloadId}
      (there : s.calls[j]? = some other) (loads : other.phase = .loading) :
      (s.finish j other slot r).calls[i]? = some { call with phase := .done r } := by
    have same := sound.loading_unique here loading there loads
    subst same
    rw [here, Option.some.injEq] at there
    rw [Flight.finish, List.getElem?_map, getElem?_put here, if_pos rfl, ← there]
    rfl
  have elsewhere {j : Nat} {other new : Call} (there : s.calls[j]? = some other)
      (quiet : other.phase ≠ .loading) : (s.calls.set j new)[i]? = some call := by
    rw [getElem?_put here, if_neg]
    rintro rfl
    rw [here, Option.some.injEq] at there
    exact quiet (there ▸ loading)
  cases step with
  | arrive =>
    obtain ⟨bound, -⟩ := List.getElem?_eq_some_iff.mp here
    exact .inl ⟨(List.getElem?_append_left bound).trans here, rfl⟩
  | look j other there ready =>
    refine .inl ⟨elsewhere there (by rw [ready]; exact fun h => Phase.noConfusion h), ?_⟩
    refine if_neg ?_
    intro claims
    rw [(Slot.look_eq_claim_iff.mp claims).1] at busy
    contradiction
  | wake j other there blocked =>
    exact .inl ⟨elsewhere there (by rw [blocked]; exact fun h => Phase.noConfusion h), rfl⟩
  | produce j other p there loads => exact .inr (.inl ⟨p, rfl, finished there loads⟩)
  | fail j other there loads => exact .inr (.inr ⟨rfl, _, .inl rfl, finished there loads⟩)
  | panic j other message there loads =>
    refine .inr (.inr ⟨?_, _, .inr ⟨message, rfl⟩, finished there loads⟩)
    rw [if_pos busy]
    rfl
  | elapse nanos => exact .inl ⟨here, rfl⟩
  | close => exact .inl ⟨here, rfl⟩

/-- An empty slot stays as it is until a call that has not waited claims it. -/
theorem empty_step (sound : Sound s) (step : Step s t) (empty : s.slot.state = .empty) :
    t.slot = s.slot ∨ ∃ (i : Nat) (call : Call), s.calls[i]? = some call ∧ call.phase = .ready ∧
      call.waitedOn = none ∧ t.calls[i]? = some { call with phase := .loading } ∧
      t.slot.state = .loading := by
  have idle {i : Nat} {call : Call} (here : s.calls[i]? = some call) : call.phase ≠ .loading := by
    intro loading
    rw [sound.state_of_loading here loading] at empty
    contradiction
  cases step with
  | look i call here ready =>
    by_cases claims : s.slot.look call.waitedOn = .claim
    · refine .inr ⟨i, call, here, ready, sound.patient here ready claims, ?_, ?_⟩
      · rw [Flight.look, Flight.put, getElem?_put here, if_pos rfl, looked, claims]
      · rw [Flight.look, if_pos claims]
        rfl
    · exact .inl (if_neg claims)
  | produce i call p here loading => exact absurd loading (idle here)
  | fail i call here loading => exact absurd loading (idle here)
  | panic i call message here loading => exact absurd loading (idle here)
  | arrive => exact .inl rfl
  | wake => exact .inl rfl
  | elapse => exact .inl rfl
  | close => exact .inl rfl

theorem exists_loading (sound : Sound s) (busy : s.slot.state = .loading) :
    ∃ (j : Nat) (call : Call), s.calls[j]? = some call ∧ call.phase = .loading := by
  have one : 0 < s.running := by rw [sound.single, if_pos busy]; decide
  obtain ⟨call, member, loads⟩ := List.countP_pos_iff.mp one
  obtain ⟨j, here⟩ := List.getElem?_of_mem member
  refine ⟨j, call, here, ?_⟩
  unfold Call.running at loads
  split at loads
  · assumption
  · contradiction

end Sound

theorem Step.constants (step : Step s t) : t.key = s.key ∧ t.limit = s.limit := by
  cases step <;> exact ⟨rfl, rfl⟩

theorem Run.constants (run : Run s t) : t.key = s.key ∧ t.limit = s.limit := by
  induction run with
  | refl => exact ⟨rfl, rfl⟩
  | tail _ last ih => exact ⟨last.constants.1.trans ih.1, last.constants.2.trans ih.2⟩

/-! ## What a waiting call has waited for -/

/-- In this state one call waits while another one loads. -/
def WaitsFor (u : Flight) (i j : Nat) : Prop :=
  (∃ call, u.calls[i]? = some call ∧ call.phase = .blocked) ∧
    ∃ call, u.calls[j]? = some call ∧ call.phase = .loading

/-- A call has run the loaders and has come back without a payload. -/
def HasFailed (s : Flight) (j : Nat) : Prop :=
  ∃ call failure, s.calls[j]? = some call ∧ call.phase = .done (.error failure) ∧
    Failed s.key failure

/-- What has become of a load that began after `n` failures: it goes on, or it has
failed, or there is a payload. -/
def Outcome (s : Flight) (j n : Nat) : Prop :=
  (∃ call, s.calls[j]? = some call ∧ call.phase = .loading ∧ s.slot.failures = n) ∨
    s.HasFailed j ∨ ∃ p, s.slot.state = .loaded p

theorem HasFailed.step (failed : s.HasFailed j) (step : Step s t) : t.HasFailed j := by
  obtain ⟨call, failure, here, result, how⟩ := failed
  exact ⟨call, failure, step.done here result, result, step.constants.1 ▸ how⟩

theorem Outcome.step {n : Nat} (sound : Sound s) (outcome : s.Outcome j n) (step : Step s t) :
    t.Outcome j n := by
  rcases outcome with ⟨call, here, loading, count⟩ | failed | ⟨p, loaded⟩
  · rcases sound.loading_step step here loading with
      ⟨still, same⟩ | ⟨p, loaded, -⟩ | ⟨-, failure, how, after⟩
    · exact .inl ⟨call, still, loading, by rw [same, count]⟩
    · exact .inr (.inr ⟨p, loaded⟩)
    · exact .inr (.inl ⟨_, failure, after, rfl, step.constants.1 ▸ how⟩)
  · exact .inr (.inl (failed.step step))
  · exact .inr (.inr ⟨p, sound.loaded_step loaded step⟩)

/-- Each call that has waited and is awake, or has given up, has waited for a load
that is known. -/
structure Remembers (past : List Flight) (s : Flight) : Prop where
  awake : ∀ i call n, s.calls[i]? = some call → call.phase = .ready → call.waitedOn = some n →
    ∃ u ∈ past, ∃ j, u.WaitsFor i j ∧ s.Outcome j n
  ended : ∀ i call n, s.calls[i]? = some call →
    call.phase = .done (.error (.error (.loadFailed s.key))) → call.waitedOn = some n →
    ∃ u ∈ past, ∃ j, u.WaitsFor i j ∧ s.HasFailed j

namespace Remembers

variable {past : List Flight}

theorem start (key : Key) (slot : Slot) (limit : Option Duration) :
    Remembers [] (Flight.start key slot limit) := by
  refine ⟨?_, ?_⟩
  · intro i call n here
    contradiction
  · intro i call n here
    contradiction

private theorem awake_step (remembers : Remembers past s) (sound : Sound s) (step : Step s t)
    {n : Nat} (here : t.calls[i]? = some call) (ready : call.phase = .ready)
    (waited : call.waitedOn = some n) :
    ∃ u ∈ s :: past, ∃ j, u.WaitsFor i j ∧ t.Outcome j n := by
  rcases step.previous here with rfl | ⟨old, before, next⟩
  · contradiction
  cases next with
  | same =>
    obtain ⟨u, member, j, waits, outcome⟩ := remembers.awake i call n before ready waited
    exact ⟨u, List.mem_cons_of_mem _ member, j, waits, outcome.step sound step⟩
  | woken blocked =>
    have fits := sound.fits old (List.mem_of_getElem? before)
    simp only [Call.Fits, blocked] at fits
    obtain ⟨j, other, there, loads⟩ := sound.exists_loading fits.1
    have count : s.slot.failures = n := Option.some.inj (fits.2.symm.trans waited)
    refine ⟨s, List.mem_cons_self, j, ⟨⟨old, before, blocked⟩, other, there, loads⟩, ?_⟩
    exact Outcome.step sound (.inl ⟨other, there, loads, count⟩) step
  | looked was_ready =>
    unfold looked at ready
    split at ready
    · contradiction
    · contradiction
    · contradiction
    · split at ready
      · contradiction
      · contradiction
  | ended r loading => contradiction

private theorem ended_step (remembers : Remembers past s) (sound : Sound s) (step : Step s t)
    {n : Nat} (here : t.calls[i]? = some call)
    (result : call.phase = .done (.error (.error (.loadFailed s.key))))
    (waited : call.waitedOn = some n) :
    ∃ u ∈ s :: past, ∃ j, u.WaitsFor i j ∧ t.HasFailed j := by
  rcases step.previous here with rfl | ⟨old, before, next⟩
  · contradiction
  cases next with
  | same =>
    obtain ⟨u, member, j, waits, failed⟩ := remembers.ended i call n before result waited
    exact ⟨u, List.mem_cons_of_mem _ member, j, waits, failed.step step⟩
  | woken blocked => contradiction
  | looked ready =>
    unfold looked at result waited
    cases move : s.slot.look old.waitedOn with
    | giveUp =>
      rw [move] at waited
      obtain ⟨unloaded, m, since, later⟩ := Slot.look_eq_giveUp_iff.mp move
      obtain ⟨u, member, j, waits, outcome⟩ := remembers.awake i old n before ready waited
      have same : m = n := Option.some.inj (since.symm.trans waited)
      -- The count has moved on and there is no payload, so that load has failed.
      rcases outcome with ⟨other, -, -, count⟩ | failed | ⟨p, loaded⟩
      · exact absurd (same.trans count.symm) later
      · exact ⟨u, List.mem_cons_of_mem _ member, j, waits, failed.step step⟩
      · exact absurd loaded (unloaded p)
    | take p =>
      rw [move] at result
      exact nomatch Phase.done.inj result
    | claim =>
      rw [move] at result
      contradiction
    | wait since =>
      rw [move] at result
      dsimp only at result
      split at result
      · injections
      · contradiction
  | ended r loading =>
    have fits := sound.fits old (List.mem_of_getElem? before)
    simp only [Call.Fits, loading] at fits
    rw [fits.2] at waited
    contradiction

theorem step (remembers : Remembers past s) (sound : Sound s) (step : Step s t) :
    Remembers (s :: past) t := by
  refine ⟨?_, ?_⟩
  · intro i call n here ready waited
    exact remembers.awake_step sound step here ready waited
  · intro i call n here result waited
    rw [step.constants.1] at result
    exact remembers.ended_step sound step here result waited

end Remembers

theorem Trace.remembers {key : Key} {slot : Slot} {limit : Option Duration} {past : List Flight}
    (idle : slot.state ≠ .loading) (trace : Trace (Flight.start key slot limit) past s) :
    Remembers past s := by
  induction trace with
  | start => exact Remembers.start key slot limit
  | step before last ih => exact ih.step ((Sound.start key limit idle).run before.run) last

/-- A call that has waited does not load. It comes back with the payload, or gives up
on a load that has failed while it waited, or because its time is up. A call that
waits has someone to wait for. A load that fails leaves the slot empty, and the
slot stays so until a new call claims it, which every new call does. -/
theorem waiters {key : Key} {slot : Slot} {limit : Option Duration} {past : List Flight}
    (idle : slot.state ≠ .loading) (trace : Trace (start key slot limit) past s) :
    (∀ (i : Nat) (call : Call), s.calls[i]? = some call → call.waitedOn.isSome →
      call.phase ≠ .loading ∧ ∀ r, call.phase = .done r →
        (∃ p, r = .ok p ∧ s.slot.state = .loaded p) ∨
        (r = .error (.error (.loadFailed key)) ∧
          ∃ u ∈ past, ∃ j, u.WaitsFor i j ∧ s.HasFailed j) ∨
        (r = .error (.error (.timedOut key.name)) ∧
          ∃ d, limit = some d ∧ d.nanos ≤ s.now - call.started)) ∧
    (∀ call ∈ s.calls, call.phase = .blocked → s.slot.state = .loading ∧ s.running = 1) ∧
    (∀ t, Step s t → ∀ (i : Nat) (call : Call) (failure : Failure),
      s.calls[i]? = some call → call.phase = .loading → t.calls[i]? = some { call with phase := .done (.error failure) } →
        t.slot.state = .empty ∧ t.running = 0) ∧
    (s.slot.state = .empty → s.running = 0 ∧
      (∀ t, Step s t → t.slot = s.slot ∨ ∃ (i : Nat) (call : Call), s.calls[i]? = some call ∧
        call.phase = .ready ∧ call.waitedOn = none ∧
        t.calls[i]? = some { call with phase := .loading } ∧ t.slot.state = .loading ∧
        t.running = 1) ∧
      (∀ (i : Nat) (call : Call), s.calls[i]? = some call → call.phase = .ready →
        call.waitedOn = none → (s.look i call).calls[i]? = some { call with phase := .loading } ∧
          (s.look i call).slot.state = .loading)) := by
  have sound := (Sound.start key limit idle).run trace.run
  have remembers := trace.remembers idle
  obtain ⟨same_key, same_limit⟩ := trace.run.constants
  refine ⟨?_, ?_, ?_, ?_⟩
  · intro i call here waited
    have fits := sound.fits call (List.mem_of_getElem? here)
    unfold Call.Fits at fits
    refine ⟨?_, ?_⟩
    · intro loading
      simp only [loading] at fits
      rw [fits.2] at waited
      contradiction
    · intro r result
      cases r with
      | ok p =>
        simp only [result] at fits
        exact .inl ⟨p, rfl, fits⟩
      | error failure =>
        simp only [result] at fits
        rcases fits waited with gave_up | late
        · obtain ⟨n, since⟩ := Option.isSome_iff_exists.mp waited
          have known := remembers.ended i call n here (by rw [result, gave_up]) since
          exact .inr (.inl ⟨by rw [gave_up, same_key]; rfl, known⟩)
        · obtain ⟨timed_out, d, set, passed⟩ := late
          refine .inr (.inr ⟨by rw [timed_out, same_key]; rfl, d, ?_, passed⟩)
          exact same_limit.symm.trans set
  · intro call member blocked
    have fits := sound.fits call member
    simp only [Call.Fits, blocked] at fits
    exact ⟨fits.1, by rw [sound.single, if_pos fits.1]⟩
  · intro t step i call failure here loading ended
    rcases sound.loading_step step here loading with
      ⟨still, -⟩ | ⟨p, -, produced⟩ | ⟨empty, -⟩
    · rw [still, Option.some.injEq] at ended
      rw [ended] at loading
      contradiction
    · rw [produced, Option.some.injEq] at ended
      have results := Phase.done.inj (congrArg Call.phase ended)
      contradiction
    · refine ⟨empty, ?_⟩
      rw [(sound.step step).single, empty]
      rfl
  · intro empty
    refine ⟨by rw [sound.single, empty]; rfl, ?_, ?_⟩
    · intro t step
      refine (sound.empty_step step empty).imp_right ?_
      rintro ⟨i, call, here, ready, unwaited, claims, busy⟩
      refine ⟨i, call, here, ready, unwaited, claims, busy, ?_⟩
      rw [(sound.step step).single, if_pos busy]
    · intro i call here ready unwaited
      have claims : s.slot.look call.waitedOn = .claim := by
        rw [Slot.look_eq_claim_iff, unwaited]
        refine ⟨empty, ?_⟩
        intro n since
        contradiction
      refine ⟨?_, ?_⟩
      · rw [look, put, getElem?_put here, if_pos rfl, looked, claims]
      · rw [look, if_pos claims]
        rfl

/-- The second call waits for the first one, which panics. A third one loads anew before
the second one gets to look, and still the second one gives up on the first. -/
theorem waiters_newer_load :
    let key : Key := ⟨"a", .note⟩
    let first : Call := ⟨.done (.error (.panic "torn")), none, 0⟩
    let second : Call := ⟨.done (.error (.error (.loadFailed key))), some 0, 0⟩
    let s : Flight := ⟨key, ⟨.loading, 1⟩, [first, second, ⟨.loading, none, 0⟩], none, true, 0⟩
    Slot.fresh.state ≠ .loading ∧ ∃ past, Trace (start key Slot.fresh none) past s ∧
      ∃ u ∈ past, ∃ j, u.WaitsFor 1 j ∧ s.HasFailed j := by
  intro key first second s
  have idle : Slot.fresh.state ≠ .loading := by decide
  let new : Call := ⟨.ready, none, 0⟩
  let loads : Call := ⟨.loading, none, 0⟩
  have both : Trace (start key Slot.fresh none) _ ⟨key, Slot.fresh, [new, new], none, true, 0⟩ :=
    (Trace.start.step .arrive).step .arrive
  have claimed : Trace (start key Slot.fresh none) _
      ⟨key, ⟨.loading, 0⟩, [loads, new], none, true, 0⟩ := both.step (.look 0 new rfl rfl)
  have waits : Trace (start key Slot.fresh none) _
      ⟨key, ⟨.loading, 0⟩, [loads, ⟨.blocked, some 0, 0⟩], none, true, 0⟩ :=
    claimed.step (.look 1 new rfl rfl)
  have torn : Trace (start key Slot.fresh none) _
      ⟨key, ⟨.empty, 1⟩, [first, ⟨.ready, some 0, 0⟩], none, true, 0⟩ :=
    waits.step (.panic 0 loads "torn" rfl rfl)
  have third : Trace (start key Slot.fresh none) _
      ⟨key, ⟨.empty, 1⟩, [first, ⟨.ready, some 0, 0⟩, new], none, true, 0⟩ := torn.step .arrive
  have again : Trace (start key Slot.fresh none) _
      ⟨key, ⟨.loading, 1⟩, [first, ⟨.ready, some 0, 0⟩, loads], none, true, 0⟩ :=
    third.step (.look 2 new rfl rfl)
  have trace : Trace (start key Slot.fresh none) _ s := again.step (.look 1 ⟨.ready, some 0, 0⟩ rfl rfl)
  refine ⟨idle, _, trace, ?_⟩
  obtain ⟨results, -, -, -⟩ := waiters idle trace
  rcases (results 1 second rfl rfl).2 _ rfl with ⟨p, ok, -⟩ | ⟨-, known⟩ | ⟨late, -⟩
  · contradiction
  · exact known
  · injections

end Flight

end TileEngine
