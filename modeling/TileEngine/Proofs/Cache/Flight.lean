import TileEngine.Cache.Slot
import TileEngine.Duration
import TileEngine.Resource.Error
import Mathlib.Logic.Relation
import Mathlib.Tactic.Common

/-!
Any number of callers of one entry. The slot is looked at and changed under its
lock, but not while loaders run, so what keeps loads apart is the state of the
slot alone. A flight is the slot together with all calls there ever were. A step
is one turn of one call with the lock, and any call may make the next one. A
thread that comes back to the entry that it is loading is one more call.
-/

namespace TileEngine

/-- How far a call has come. -/
inductive Phase where
  /-- About to look at the slot: just arrived, or awake again. -/
  | ready
  /-- Waiting to be notified. -/
  | blocked
  /-- Running the loaders. -/
  | loading
  /-- Back at its caller. -/
  | done (result : Except Failure PayloadId)

/-- A call: how far it has come, the number of failures when it began to wait, if it
has waited, and the time of its arrival in nanoseconds. -/
structure Call where
  phase : Phase
  waitedOn : Option Nat
  started : Nat

namespace Call

/-- Whether the call runs the loaders. -/
def running (call : Call) : Bool :=
  match call.phase with
  | .loading => true
  | _ => false

/-- The call after a notification. -/
def notified (call : Call) : Call :=
  match call.phase with
  | .blocked => { call with phase := .ready }
  | _ => call

end Call

/-- The slot of an entry, all calls, the limit on waiting, whether the cache is there
to ask for it, and the time. -/
structure Flight where
  key : Key
  slot : Slot
  calls : List Call
  limit : Option Duration
  alive : Bool
  now : Nat

namespace Flight

/-- Nobody has called yet. -/
def start (key : Key) (slot : Slot) (limit : Option Duration) : Flight :=
  ⟨key, slot, [], limit, true, 0⟩

/-- The number of calls that run the loaders. -/
def running (s : Flight) : Nat := s.calls.countP Call.running

/-- A call changes. -/
def put (s : Flight) (i : Nat) (call : Call) : Flight := { s with calls := s.calls.set i call }

/-- Whether a call has used up its time. -/
def expired (s : Flight) (call : Call) : Bool :=
  match if s.alive then s.limit else none with
  | some limit => limit.nanos ≤ s.now - call.started
  | none => false

/-- What a call is after a look at the slot. -/
def looked (s : Flight) (call : Call) : Call :=
  match s.slot.look call.waitedOn with
  | .take p => { call with phase := .done (.ok p) }
  | .giveUp => { call with phase := .done (.error (.error (.loadFailed s.key))) }
  | .claim => { call with phase := .loading }
  | .wait since =>
    if s.expired call then
      ⟨.done (.error (.error (.timedOut s.key.name))), some since, call.started⟩
    else ⟨.blocked, some since, call.started⟩

/-- A call looks at the slot, and may claim it. -/
def look (s : Flight) (i : Nat) (call : Call) : Flight :=
  { s.put i (s.looked call) with
    slot := if s.slot.look call.waitedOn = .claim then s.slot.claimed else s.slot }

/-- A load is over: the slot changes, its caller returns, and all others are notified. -/
def finish (s : Flight) (i : Nat) (call : Call) (slot : Slot) (r : Except Failure PayloadId) :
    Flight :=
  { s with
    slot := slot
    calls := (s.calls.set i { call with phase := .done r }).map Call.notified }

/-- One turn of one call. -/
inductive Step : Flight → Flight → Prop
  | arrive {s : Flight} :
      Step s { s with calls := s.calls ++ [⟨.ready, none, s.now⟩] }
  | look {s : Flight} (i : Nat) (call : Call) (here : s.calls[i]? = some call)
      (ready : call.phase = .ready) : Step s (s.look i call)
  -- For no reason, or because the time is up: what comes of it shows at the next look.
  | wake {s : Flight} (i : Nat) (call : Call) (here : s.calls[i]? = some call)
      (blocked : call.phase = .blocked) : Step s (s.put i { call with phase := .ready })
  | produce {s : Flight} (i : Nat) (call : Call) (p : PayloadId)
      (here : s.calls[i]? = some call) (loading : call.phase = .loading) :
      Step s (s.finish i call (s.slot.filled p) (.ok p))
  | fail {s : Flight} (i : Nat) (call : Call) (here : s.calls[i]? = some call)
      (loading : call.phase = .loading) :
      Step s (s.finish i call s.slot.failed (.error (.error (.loadFailed s.key))))
  -- The guard that unwinding runs looks at the state before it puts the slot back.
  | panic {s : Flight} (i : Nat) (call : Call) (message : String)
      (here : s.calls[i]? = some call) (loading : call.phase = .loading) :
      Step s (s.finish i call (if s.slot.state = .loading then s.slot.failed else s.slot)
        (.error (.panic message)))
  | elapse {s : Flight} (nanos : Nat) : Step s { s with now := s.now + nanos }
  | close {s : Flight} : Step s { s with alive := false }

/-- Any number of turns. -/
abbrev Run : Flight → Flight → Prop := Relation.ReflTransGen Step

end Flight

/-- What the phase of a call says about the slot. -/
def Call.Fits (s : Flight) (call : Call) : Prop :=
  match call.phase with
  | .ready => ∀ n, call.waitedOn = some n →
      n < s.slot.failures ∨ n = s.slot.failures ∧ s.slot.state ≠ .empty
  | .blocked => s.slot.state = .loading ∧ call.waitedOn = some s.slot.failures
  | .loading => s.slot.state = .loading ∧ call.waitedOn = none
  | .done (.ok p) => s.slot.state = .loaded p
  | .done (.error failure) => call.waitedOn.isSome →
      failure = .error (.loadFailed s.key) ∨
        failure = .error (.timedOut s.key.name) ∧
          ∃ limit, s.limit = some limit ∧ limit.nanos ≤ s.now - call.started

namespace Flight

/-- What holds at all times: one call loads while the slot says so, and every call fits
the slot. -/
structure Sound (s : Flight) : Prop where
  single : s.running = if s.slot.state = .loading then 1 else 0
  fits : ∀ call ∈ s.calls, call.Fits s

variable {s t : Flight} {i : Nat} {call : Call}

theorem running_put (here : s.calls[i]? = some call) (new : Call) :
    (s.put i new).running + call.running.toNat = s.running + new.running.toNat := by
  obtain ⟨bound, value⟩ := List.getElem?_eq_some_iff.mp here
  have member : call ∈ s.calls := List.mem_of_getElem? here
  unfold running put
  rw [List.countP_set bound, value]
  cases old : call.running with
  | false => cases new.running <;> simp
  | true =>
    have pos : 0 < s.calls.countP Call.running := List.countP_pos_iff.mpr ⟨call, member, old⟩
    cases new.running <;> simp <;> omega

theorem running_notified (calls : List Call) :
    (calls.map Call.notified).countP Call.running = calls.countP Call.running := by
  rw [List.countP_map]
  congr 1
  funext call
  unfold Function.comp Call.notified Call.running
  cases phase : call.phase <;> simp [phase]

theorem running_eq_zero_iff : s.running = 0 ↔ ∀ call ∈ s.calls, call.running = false := by
  simp [running, List.countP_eq_zero]

theorem mem_put {new other : Call} (member : other ∈ (s.put i new).calls) :
    other = new ∨ other ∈ s.calls :=
  (List.mem_or_eq_of_mem_set member).symm

namespace Sound

theorem start (key : Key) {slot : Slot} (limit : Option Duration) (idle : slot.state ≠ .loading) :
    Sound (Flight.start key slot limit) := by
  refine ⟨?_, ?_⟩
  · exact (if_neg idle).symm
  · intro call member
    contradiction

/-- A call that does not load, before or after, changes nothing for the others. -/
theorem put (sound : Sound s) (here : s.calls[i]? = some call) {new : Call}
    (before : call.running = false) (after : new.running = false) (fits : new.Fits s) :
    Sound (s.put i new) := by
  refine ⟨?_, ?_⟩
  · have count := running_put here new
    rw [before, after] at count
    exact (Nat.add_right_cancel count).trans sound.single
  · intro other member
    rcases mem_put member with rfl | old
    · exact fits
    · exact sound.fits other old

theorem claim (sound : Sound s) (here : s.calls[i]? = some call) (ready : call.phase = .ready)
    (empty : s.slot.state = .empty) (patient : call.waitedOn = none) :
    Sound { s.put i { call with phase := .loading } with slot := s.slot.claimed } := by
  have idle : call.running = false := by rw [Call.running, ready]
  refine ⟨?_, ?_⟩
  · have count := running_put here { call with phase := .loading }
    rw [idle, sound.single, empty] at count
    exact count
  · intro other member
    rcases mem_put member with rfl | old
    · exact ⟨rfl, patient⟩
    · have fits := sound.fits other old
      unfold Call.Fits at fits ⊢
      cases phase : other.phase with
      | ready =>
        simp only [phase] at fits ⊢
        intro n since
        refine .inl ((fits n since).resolve_right ?_)
        exact fun still => still.2 empty
      | blocked =>
        simp only [phase, empty] at fits
        exact absurd fits.1 (by decide)
      | loading =>
        simp only [phase, empty] at fits
        exact absurd fits.1 (by decide)
      | done r =>
        cases r with
        | ok p =>
          simp only [phase, empty] at fits
          contradiction
        | error failure =>
          simp only [phase] at fits ⊢
          exact fits

/-- A call that has waited gives up on an empty slot. -/
theorem patient (sound : Sound s) (here : s.calls[i]? = some call) (ready : call.phase = .ready)
    (claims : s.slot.look call.waitedOn = .claim) : call.waitedOn = none := by
  obtain ⟨empty, current⟩ := Slot.look_eq_claim_iff.mp claims
  have fits := sound.fits call (List.mem_of_getElem? here)
  simp only [Call.Fits, ready] at fits
  rw [Option.eq_none_iff_forall_ne_some]
  intro n since
  rcases fits n since with past | still
  · have := current n since
    omega
  · exact still.2 empty

theorem look (sound : Sound s) (here : s.calls[i]? = some call) (ready : call.phase = .ready) :
    Sound (s.look i call) := by
  have idle : call.running = false := by rw [Call.running, ready]
  unfold Flight.look looked
  cases move : s.slot.look call.waitedOn with
  | take p =>
    refine sound.put here idle rfl ?_
    exact Slot.look_eq_take_iff.mp move
  | giveUp =>
    refine sound.put here idle rfl ?_
    exact fun _ => .inl rfl
  | claim =>
    obtain ⟨empty, -⟩ := Slot.look_eq_claim_iff.mp move
    exact sound.claim here ready empty (sound.patient here ready move)
  | wait since =>
    obtain ⟨loading, rfl, -⟩ := Slot.look_eq_wait_iff.mp move
    dsimp only
    rw [if_neg (fun claims => Slot.Move.noConfusion claims)]
    split
    · rename_i late
      refine sound.put here idle rfl ?_
      refine fun _ => .inr ⟨rfl, ?_⟩
      unfold expired at late
      split at late
      · rename_i limit set
        refine ⟨limit, ?_, by simpa using late⟩
        split at set
        · exact set
        · contradiction
      · contradiction
    · refine sound.put here idle rfl ?_
      exact ⟨loading, rfl⟩

/-- The end of a load, whatever it is: nobody loads any more, and those that waited
for it will see that it is over. -/
theorem finish (sound : Sound s) (here : s.calls[i]? = some call) (loading : call.phase = .loading)
    {slot : Slot} {r : Except Failure PayloadId}
    (ended : slot.state ≠ .loading)
    (told : slot.failures = s.slot.failures ∧ slot.state ≠ .empty ∨
      slot.failures = s.slot.failures + 1)
    (fits : Call.Fits { s with slot := slot } { call with phase := .done r }) :
    Sound (s.finish i call slot r) := by
  have busy : s.slot.state = .loading := by
    have own := sound.fits call (List.mem_of_getElem? here)
    simp only [Call.Fits, loading] at own
    exact own.1
  have nobody : (s.put i { call with phase := .done r }).running = 0 := by
    have count := running_put here { call with phase := .done r }
    have one : call.running = true := by rw [Call.running, loading]
    rw [one, sound.single, busy, if_pos rfl] at count
    exact Nat.add_right_cancel count
  refine ⟨?_, ?_⟩
  · refine Eq.trans ?_ (if_neg ended).symm
    exact (running_notified _).trans nobody
  · intro other member
    obtain ⟨old, old_member, rfl⟩ := List.mem_map.mp member
    have silent := running_eq_zero_iff.mp nobody old old_member
    rcases mem_put (s := s) old_member with rfl | old_member
    · exact fits
    · have old_fits := sound.fits old old_member
      unfold Call.Fits at old_fits
      unfold Call.notified Call.Fits
      cases phase : old.phase with
      | ready =>
        simp only [phase] at old_fits ⊢
        intro n since
        change n < slot.failures ∨ n = slot.failures ∧ slot.state ≠ .empty
        rcases old_fits n since with past | ⟨still, -⟩
        · exact .inl (by omega)
        · rcases told with ⟨same, full⟩ | more
          · exact .inr ⟨still.trans same.symm, full⟩
          · exact .inl (by omega)
      | blocked =>
        simp only [phase] at old_fits ⊢
        intro n since
        rw [old_fits.2, Option.some.injEq] at since
        change n < slot.failures ∨ n = slot.failures ∧ slot.state ≠ .empty
        rcases told with ⟨same, full⟩ | more
        · exact .inr ⟨since.symm.trans same.symm, full⟩
        · exact .inl (by omega)
      | loading =>
        rw [Call.running, phase] at silent
        contradiction
      | done r =>
        cases r with
        | ok p =>
          simp only [phase, busy] at old_fits
          contradiction
        | error failure =>
          simp only [phase] at old_fits ⊢
          exact old_fits

theorem step (sound : Sound s) (step : Step s t) : Sound t := by
  cases step with
  | arrive =>
    refine ⟨?_, ?_⟩
    · refine Eq.trans ?_ sound.single
      exact List.countP_append.trans (Nat.add_zero _)
    · intro call member
      rcases List.mem_append.mp member with old | new
      · exact sound.fits call old
      · rw [List.mem_singleton.mp new]
        intro n since
        contradiction
  | look i call here ready => exact sound.look here ready
  | wake i call here blocked =>
    have fits := sound.fits call (List.mem_of_getElem? here)
    simp only [Call.Fits, blocked] at fits
    refine sound.put here (by rw [Call.running, blocked]) rfl ?_
    intro n since
    rw [fits.2, Option.some.injEq] at since
    refine .inr ⟨since.symm, ?_⟩
    rw [fits.1]
    decide
  | produce i call p here loading =>
    refine sound.finish here loading ?_ ?_ rfl
    · exact fun still => SlotState.noConfusion still
    · exact .inl ⟨rfl, fun empty => SlotState.noConfusion empty⟩
  | fail i call here loading =>
    refine sound.finish here loading ?_ (.inr rfl) (fun _ => .inl rfl)
    exact fun still => SlotState.noConfusion still
  | panic i call message here loading =>
    have own := sound.fits call (List.mem_of_getElem? here)
    simp only [Call.Fits, loading] at own
    rw [if_pos own.1]
    refine sound.finish here loading ?_ (.inr rfl) ?_
    · exact fun still => SlotState.noConfusion still
    · intro waited
      rw [own.2] at waited
      contradiction
  | elapse nanos =>
    refine ⟨sound.single, ?_⟩
    intro call member
    have fits := sound.fits call member
    unfold Call.Fits at fits ⊢
    cases phase : call.phase with
    | ready => simpa only [phase] using fits
    | blocked => simpa only [phase] using fits
    | loading => simpa only [phase] using fits
    | done r =>
      cases r with
      | ok p => simpa only [phase] using fits
      | error failure =>
        simp only [phase] at fits ⊢
        intro waited
        refine (fits waited).imp_right ?_
        rintro ⟨late, limit, set, passed⟩
        exact ⟨late, limit, set, by omega⟩
  | close => exact ⟨sound.single, sound.fits⟩

theorem run (sound : Sound s) (run : Run s t) : Sound t := by
  induction run with
  | refl => exact sound
  | tail _ last ih => exact ih.step last

theorem state_of_loading (sound : Sound s) (here : s.calls[i]? = some call)
    (loading : call.phase = .loading) : s.slot.state = .loading := by
  have own := sound.fits call (List.mem_of_getElem? here)
  simp only [Call.Fits, loading] at own
  exact own.1

/-- A payload that is there stays there. -/
theorem loaded_step (sound : Sound s) {p : PayloadId} (loaded : s.slot.state = .loaded p)
    (step : Step s t) : t.slot.state = .loaded p := by
  cases step with
  | look i call here ready =>
    have unclaimed : s.slot.look call.waitedOn ≠ .claim := by
      intro claims
      rw [(Slot.look_eq_claim_iff.mp claims).1] at loaded
      contradiction
    rw [Flight.look, if_neg unclaimed]
    exact loaded
  | produce i call q here loading =>
    rw [sound.state_of_loading here loading] at loaded
    contradiction
  | fail i call here loading =>
    rw [sound.state_of_loading here loading] at loaded
    contradiction
  | panic i call message here loading =>
    rw [sound.state_of_loading here loading] at loaded
    contradiction
  | arrive => exact loaded
  | wake => exact loaded
  | elapse => exact loaded
  | close => exact loaded

theorem loaded_run (sound : Sound s) {p : PayloadId} (loaded : s.slot.state = .loaded p)
    (run : Run s t) : t.slot.state = .loaded p := by
  induction run with
  | refl => exact loaded
  | tail before last ih => exact (sound.run before).loaded_step ih last

theorem state_of_result (sound : Sound s) (member : call ∈ s.calls) {p : PayloadId}
    (result : call.phase = .done (.ok p)) : s.slot.state = .loaded p := by
  have own := sound.fits call member
  simp only [Call.Fits, result] at own
  exact own

end Sound

/-- One call loads while the slot says so. Once the slot has a payload, it has that
payload for ever, no call loads, and the results of all calls are that payload. -/
theorem single_flight {key : Key} {slot : Slot} {limit : Option Duration} {s : Flight}
    (idle : slot.state ≠ .loading) (run : Run (start key slot limit) s) :
    (s.running = if s.slot.state = .loading then 1 else 0) ∧
      (∀ call ∈ s.calls, ∀ p, call.phase = .done (.ok p) → s.slot.state = .loaded p) ∧
      ∀ p, s.slot.state = .loaded p → ∀ t, Run s t →
        t.slot.state = .loaded p ∧ t.running = 0 ∧
          ∀ call ∈ t.calls, ∀ q, call.phase = .done (.ok q) → q = p := by
  have sound := (Sound.start key limit idle).run run
  refine ⟨sound.single, ?_, ?_⟩
  · intro call member p result
    exact sound.state_of_result member result
  · intro p loaded t later
    have still := sound.loaded_run loaded later
    have after := sound.run later
    refine ⟨still, ?_, ?_⟩
    · rw [after.single, still]
      rfl
    · intro call member q result
      have held := after.state_of_result member result
      rw [still] at held
      exact (SlotState.loaded.inj held).symm

/-- Of two calls the first one loads, the second one waits for it, and both have the
payload, which stays. -/
theorem single_flight_two_calls :
    let key : Key := ⟨"a", .note⟩
    let s : Flight :=
      ⟨key, ⟨.loaded 7, 0⟩, [⟨.done (.ok 7), none, 0⟩, ⟨.done (.ok 7), some 0, 0⟩], none, true, 0⟩
    Slot.fresh.state ≠ .loading ∧ Run (start key Slot.fresh none) s ∧ s.running = 0 ∧
      ∀ t, Run s t → t.slot.state = .loaded 7 ∧ t.running = 0 := by
  intro key s
  have idle : Slot.fresh.state ≠ .loading := by decide
  let first : Call := ⟨.loading, none, 0⟩
  have both : Run (start key Slot.fresh none)
      ⟨key, Slot.fresh, [⟨.ready, none, 0⟩, ⟨.ready, none, 0⟩], none, true, 0⟩ :=
    (Relation.ReflTransGen.single .arrive).tail .arrive
  have loads : Run (start key Slot.fresh none)
      ⟨key, ⟨.loading, 0⟩, [first, ⟨.ready, none, 0⟩], none, true, 0⟩ :=
    both.tail (.look 0 ⟨.ready, none, 0⟩ rfl rfl)
  have waits : Run (start key Slot.fresh none)
      ⟨key, ⟨.loading, 0⟩, [first, ⟨.blocked, some 0, 0⟩], none, true, 0⟩ :=
    loads.tail (.look 1 ⟨.ready, none, 0⟩ rfl rfl)
  have notified : Run (start key Slot.fresh none)
      ⟨key, ⟨.loaded 7, 0⟩, [⟨.done (.ok 7), none, 0⟩, ⟨.ready, some 0, 0⟩], none, true, 0⟩ :=
    waits.tail (.produce 0 first 7 rfl rfl)
  have run : Run (start key Slot.fresh none) s := notified.tail (.look 1 ⟨.ready, some 0, 0⟩ rfl rfl)
  obtain ⟨count, -, forever⟩ := single_flight idle run
  refine ⟨idle, run, count, ?_⟩
  intro t later
  obtain ⟨loaded, nobody, -⟩ := forever 7 rfl t later
  exact ⟨loaded, nobody⟩

end Flight

end TileEngine
