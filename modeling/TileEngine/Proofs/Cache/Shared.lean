import TileEngine.Cache.Shared
import TileEngine.Proofs.Cache.Nested

/-!
One load that several callers share. The callers that find the entry claimed look at it
after one another, block, and look again when the load is over or their time is up. What
a shared load gives to its callers is what the calls of a flight come back with.
-/

namespace TileEngine

/-- What a call that has waited hears when the load is over. -/
def Slot.heard (after : Slot) (key : Key) (since : Nat) : Except Failure PayloadId :=
  match after.look (some since) with
  | .take p => .ok p
  | .giveUp => .error (.error (.loadFailed key))
  | .claim | .wait _ => .error .stuck

namespace Slot.Turned

variable {key : Key} {limit : Option Duration} {before after : Slot}
  {r : Except Failure PayloadId}

/-- How a call ends that finds the slot empty, unless it never comes back. -/
theorem ends (turned : before.Turned key limit after r) (empty : before.state = .empty)
    (returns : r ≠ .error .stuck) :
    (∃ p, after = before.claimed.filled p ∧ r = .ok p) ∨
      after = before.claimed.failed ∧
        (r = .error (.error (.loadFailed key)) ∨ ∃ message, r = .error (.panic message)) := by
  cases turned with
  | took loaded =>
    rw [empty] at loaded
    contradiction
  | waited busy =>
    rw [empty] at busy
    contradiction
  | stuck => exact absurd rfl returns
  | lost => exact absurd rfl returns
  | produced _ p => exact .inl ⟨p, rfl, rfl⟩
  | failed _ => exact .inr ⟨rfl, .inl rfl⟩
  | panicked _ message => exact .inr ⟨rfl, .inr ⟨message, rfl⟩⟩

/-- A load that is over is over for those that waited: they have the payload, or they
give up. -/
theorem heard_cases (turned : before.Turned key limit after r) (empty : before.state = .empty)
    (returns : r ≠ .error .stuck) :
    (∃ p, after.look (some before.failures) = .take p) ∨
      after.look (some before.failures) = .giveUp := by
  rcases turned.ends empty returns with ⟨p, rfl, -⟩ | ⟨rfl, -⟩
  · exact .inl ⟨p, rfl⟩
  · exact .inr (by simp [Slot.look, Slot.failed, Slot.claimed])

end Slot.Turned

namespace Flight

variable {s : Flight} {old new : Call}

theorem looked_early {since : Nat} (wait : s.slot.look old.waitedOn = .wait since)
    (early : s.expired old = false) : s.looked old = ⟨.blocked, some since, old.started⟩ := by
  simp [looked, wait, early]

theorem looked_late {since : Nat} (wait : s.slot.look old.waitedOn = .wait since)
    (late : s.expired old = true) :
    s.looked old =
      ⟨.done (.error (.error (.timedOut s.key.name))), some since, old.started⟩ := by
  simp [looked, wait, late]

theorem step_look (s : Flight) (old : Call) (pre suf : List Call) (ready : old.phase = .ready)
    (idle : s.slot.look old.waitedOn ≠ .claim) :
    Step { s with calls := pre ++ old :: suf } { s with calls := pre ++ s.looked old :: suf } := by
  have here : (pre ++ old :: suf)[pre.length]? = some old := by simp
  have step := @Step.look { s with calls := pre ++ old :: suf } pre.length old here ready
  have place : (pre ++ old :: suf).set pre.length (s.looked old) = pre ++ s.looked old :: suf := by
    simp
  have same : look { s with calls := pre ++ old :: suf } pre.length old =
      { s with calls := pre ++ s.looked old :: suf } := by
    unfold look put
    rw [if_neg idle]
    exact congrArg (fun calls => { s with calls := calls }) place
  rwa [same] at step

theorem step_claim (suf : List Call) (ready : old.phase = .ready)
    (claims : s.slot.look old.waitedOn = .claim) :
    Step { s with calls := old :: suf }
      { s with slot := s.slot.claimed, calls := { old with phase := .loading } :: suf } := by
  have step := @Step.look { s with calls := old :: suf } 0 old rfl ready
  have same : look { s with calls := old :: suf } 0 old =
      { s with slot := s.slot.claimed, calls := { old with phase := .loading } :: suf } := by
    unfold look put looked
    rw [if_pos claims, claims]
    rfl
  rwa [same] at step

/-- Calls in one and the same position make their turns after one another. -/
theorem run_each (turn : ∀ pre suf,
      Step { s with calls := pre ++ old :: suf } { s with calls := pre ++ new :: suf })
    (pre : List Call) (n : Nat) :
    Run { s with calls := pre ++ List.replicate n old }
      { s with calls := pre ++ List.replicate n new } := by
  induction n generalizing pre with
  | zero => exact .refl
  | succ n ih =>
    have first := turn pre (List.replicate n old)
    have others := ih (pre ++ [new])
    rw [List.append_assoc, List.append_assoc] at others
    exact .head first others

theorem run_arrive (s : Flight) (n : Nat) :
    Run s { s with calls := s.calls ++ List.replicate n ⟨.ready, none, s.now⟩ } := by
  induction n with
  | zero =>
    rw [List.replicate_zero, List.append_nil]
  | succ n ih =>
    have last := ih.tail .arrive
    rw [List.append_assoc, ← List.replicate_succ'] at last
    exact last

/-- The load of the first call is over, and whoever was blocked looks again. -/
theorem step_end {before after : Slot} {limit : Option Duration} {r : Except Failure PayloadId}
    (turned : before.Turned s.key limit after r) (empty : before.state = .empty)
    (returns : r ≠ .error .stuck) (claimed : s.slot = before.claimed) (call : Call)
    (loading : call.phase = .loading) (rest : List Call) :
    Step { s with calls := call :: rest }
      { s with slot := after, calls := { call with phase := .done r } :: rest.map Call.notified } := by
  have here : (call :: rest)[0]? = some call := rfl
  rcases turned.ends empty returns with ⟨p, rfl, rfl⟩ | ⟨rfl, rfl | ⟨message, rfl⟩⟩
  · rw [← claimed]
    exact @Step.produce { s with calls := call :: rest } 0 call p here loading
  · rw [← claimed]
    exact @Step.fail { s with calls := call :: rest } 0 call here loading
  · have ended := @Step.panic { s with calls := call :: rest } 0 call message here loading
    have busy : s.slot.state = .loading := by rw [claimed]; rfl
    dsimp only at ended
    rw [if_pos busy] at ended
    rw [← claimed]
    exact ended

section crowd

variable {since : Nat} (pre : List Call) (others : Nat)

theorem run_block (wait : s.slot.look none = .wait since)
    (patient : ∀ d, s.limit = some d → 0 < d.nanos) :
    Run { s with calls := pre ++ List.replicate others ⟨.ready, none, s.now⟩ }
      { s with calls := pre ++ List.replicate others ⟨.blocked, some since, s.now⟩ } := by
  have early : s.expired ⟨.ready, none, s.now⟩ = false := by
    unfold expired
    split
    · rename_i d set
      have limited : s.limit = some d := by
        split at set
        · exact set
        · contradiction
      have pos := patient d limited
      simp only [Nat.sub_self, decide_eq_false_iff_not]
      omega
    · rfl
  apply run_each
  intro before behind
  have step := step_look s ⟨.ready, none, s.now⟩ before behind rfl (by simp [wait])
  rwa [looked_early wait early] at step

/-- Callers that come to look when their time is up do not block any more. -/
theorem run_expire (wait : s.slot.look none = .wait since) (alive : s.alive = true) {d : Duration}
    (limited : s.limit = some d) :
    Run { s with calls := pre ++ List.replicate others ⟨.ready, none, s.now⟩ }
      { s with
        now := s.now + d.nanos
        calls := pre ++ List.replicate others
          ⟨.done (.error (.error (.timedOut s.key.name))), some since, s.now⟩ } := by
  refine .head (.elapse d.nanos) ?_
  have late : expired { s with now := s.now + d.nanos } ⟨.ready, none, s.now⟩ = true := by
    refine expired_of_limit (d := d) ?_ ?_
    · exact (if_pos alive).trans limited
    · simp
  refine run_each (s := { s with now := s.now + d.nanos }) ?_ pre others
  intro before behind
  have step := step_look { s with now := s.now + d.nanos } ⟨.ready, none, s.now⟩ before behind rfl
    (by simp [wait])
  rwa [looked_late wait late] at step

theorem run_hear (told : (∃ p, s.slot.look (some since) = .take p) ∨
      s.slot.look (some since) = .giveUp) (started : Nat) :
    Run { s with calls := pre ++ List.replicate others ⟨.ready, some since, started⟩ }
      { s with
        calls := pre ++ List.replicate others
          ⟨.done (s.slot.heard s.key since), some since, started⟩ } := by
  apply run_each
  intro before behind
  have step := step_look s ⟨.ready, some since, started⟩ before behind rfl
  rw [looked] at step
  rcases told with ⟨p, take⟩ | up
  · simpa [take, Slot.heard] using step
  · simpa [up, Slot.heard] using step

end crowd

/-- The first one of many callers claims the slot. -/
theorem run_first (nobody : s.calls = []) (empty : s.slot.state = .empty) (others : Nat) :
    Run s { s with
      slot := s.slot.claimed
      calls := ⟨.loading, none, s.now⟩ :: List.replicate others ⟨.ready, none, s.now⟩ } := by
  have arrive := run_arrive s (others + 1)
  rw [nobody, List.nil_append, List.replicate_succ] at arrive
  have move : s.slot.look none = .claim := by
    refine Slot.look_eq_claim_iff.mpr ⟨empty, ?_⟩
    intro n since
    contradiction
  exact arrive.tail (step_claim _ rfl move)

section shared

variable {after : Slot} {limit : Option Duration} {r : Except Failure PayloadId}
  (nobody : s.calls = []) (empty : s.slot.state = .empty)
  (turned : s.slot.Turned s.key limit after r) (returns : r ≠ .error .stuck) (others : Nat)

include nobody empty turned returns

theorem run_crowd (patient : ∀ d, s.limit = some d → 0 < d.nanos) :
    ∃ t, Run s t ∧ t.slot = after ∧ t.calls.map Call.phase =
      .done r :: List.replicate others (.done (after.heard s.key s.slot.failures)) := by
  let busy : Flight := { s with slot := s.slot.claimed }
  let loads : Call := ⟨.loading, none, s.now⟩
  have first := run_first nobody empty others
  have block := run_block (s := busy) [loads] others rfl patient
  have ended := step_end (s := busy) turned empty returns rfl loads rfl
    (List.replicate others ⟨.blocked, some s.slot.failures, s.now⟩)
  rw [List.map_replicate] at ended
  have hear := run_hear (s := { s with slot := after }) [{ loads with phase := .done r }] others
    (turned.heard_cases empty returns) s.now
  refine ⟨_, ((first.trans block).tail ended).trans hear, rfl, ?_⟩
  simp

/-- Those that give up while the load goes on have the same result, whatever becomes of it. -/
theorem run_crowd_expired (alive : s.alive = true) {d : Duration} (limited : s.limit = some d) :
    ∃ t, Run s t ∧ t.slot = after ∧ t.calls.map Call.phase =
      .done r :: List.replicate others (.done (.error (.error (.timedOut s.key.name)))) := by
  let busy : Flight := { s with slot := s.slot.claimed }
  let loads : Call := ⟨.loading, none, s.now⟩
  have first := run_first nobody empty others
  have expire := run_expire (s := busy) [loads] others rfl alive limited
  have ended := step_end (s := { busy with now := s.now + d.nanos }) turned empty returns rfl
    loads rfl (List.replicate others
      ⟨.done (.error (.error (.timedOut s.key.name))), some s.slot.failures, s.now⟩)
  rw [List.map_replicate] at ended
  refine ⟨_, (first.trans expire).tail ended, rfl, ?_⟩
  simp [Call.notified]

end shared

end Flight

/-! ## Calls of a cache as calls of a flight -/

/-- A flight in which nobody has called for an entry yet. -/
def Cache.flight (c : Cache) (b : Block) : Flight := ⟨b.key, b.slot, [], c.waitLimit, c.open_, 0⟩

namespace Cache

variable {c : Cache} {h : Handle} {id : BlockId} {b : Block}

theorem afterWait_eq {slot : Slot} {key : Key} (found : c.slotAt? id = some slot)
    (named : c.key? id = some key) (h : Handle) (since : Nat) :
    c.afterWait h id since = c.typedResult h (slot.heard key since) := by
  obtain ⟨b, made, rfl⟩ := block?_of_slotAt? found
  rw [key?, made, Option.map_some, Option.some.injEq] at named
  unfold afterWait Slot.heard
  rw [made, ← named]
  dsimp only
  cases b.slot.look (some since) with
  | take p => rfl
  | giveUp => rfl
  | claim => rfl
  | wait n => rfl

end Cache

namespace Pool

variable {s : Pool} {h : Handle} {id : BlockId} {b : Block} (sound : Sound s)
  (stays : s.leaving = none) (honest : ∀ l ∈ s.cache.loaders, l.Honest) (relies : s.Relies h)
  (refers : h.block = some id) (made : s.cache.block? id = some b)

include sound stays honest relies refers made

/-- One call that nobody interferes with, and all that is nested in it. -/
theorem flight_of_fetch :
    ∃ t, Flight.Run (s.cache.flight b) t ∧ (s.cache.fetch id).1.slotAt? id = some t.slot ∧
      ((s.cache.fetch id).2 = .error .stuck ∨
        ∃ call, t.calls[0]? = some call ∧ call.phase = .done (s.cache.fetch id).2) := by
  obtain ⟨-, after, slot, turned⟩ := follows_fetch s h id b sound stays honest relies refers made
  obtain ⟨t, run, rfl, result⟩ := Flight.run_of_turned (s := s.cache.flight b) turned
  exact ⟨t, run, slot, result⟩

/-- Callers that share a load get what the calls of a flight come back with. -/
theorem flight_of_getClaimed (claims : b.slot.look none = .claim) (others : Nat) (expired : Bool)
    (limited : expired = true → s.cache.waitLimit.isSome)
    (patient : expired = false → ∀ d, s.cache.waitLimit = some d → 0 < d.nanos)
    (shared : (s.cache.getClaimed h id b others expired).2.shared = true)
    (returns : .error .stuck ∉ (s.cache.getClaimed h id b others expired).2.results) :
    ∃ (t : Flight) (results : List (Except Failure PayloadId)), Flight.Run (s.cache.flight b) t ∧
      (s.cache.getClaimed h id b others expired).1.slotAt? id = some t.slot ∧
      t.calls.map Call.phase = results.map Phase.done ∧
      (s.cache.getClaimed h id b others expired).2.results =
        results.map ((s.cache.getClaimed h id b others expired).1.typedResult h) := by
  obtain ⟨c, out, kept, leaving⟩ := s
  obtain rfl : leaving = none := stays
  have empty := (Slot.look_eq_claim_iff.mp claims).1
  dsimp only at *
  unfold Cache.getClaimed at *
  rcases prepared : (c.modifySlot id Slot.claimed).prepare b.key with ⟨d, _ | script⟩
  · simp [prepared] at shared
  · obtain ⟨-, -, busy, opens⟩ := leads_prepare sound honest relies refers made claims prepared
    have alive := (opens script rfl).1
    have since : ((d.block? id).map (·.slot.failures)).getD 0 = b.slot.failures := by
      obtain ⟨b', found, slot⟩ := Cache.block?_of_slotAt? busy
      rw [found, Option.map_some, slot]
      rfl
    have recorded : Cache.Recorded d (if expired then
        d.recordAll (List.replicate others (.timedOut b.key.name)) else d) := by
      split
      · refine .recordAll ?_ d
        intro e member key same
        rw [List.eq_of_mem_replicate member] at same
        contradiction
      · exact .refl d
    obtain ⟨⟨left, returned⟩, after, slot, turned⟩ := returned_script sound honest relies refers
      made claims follows_fetch prepared recorded
    have named : c.key? id = some b.key := Cache.key?_eq_some_iff.mpr ⟨b, made, rfl⟩
    have named := (returned.leads.later.keys id (Cache.block?_lt made)).trans named
    simp only [prepared, since] at returns ⊢
    generalize Cache.settle _ id b.key _ = ended at *
    obtain ⟨e, r⟩ := ended
    dsimp only at *
    have comes_back : r ≠ .error .stuck := by
      rintro rfl
      exact returns List.mem_cons_self
    cases expired with
    | false =>
      obtain ⟨t, run, rfl, phases⟩ := Flight.run_crowd (s := c.flight b) rfl empty turned comes_back
        others (patient rfl)
      refine ⟨t, r :: List.replicate others (t.slot.heard b.key b.slot.failures), run, slot, ?_, ?_⟩
      · rw [phases, List.map_cons, List.map_replicate]
        rfl
      · rw [if_neg (by simp), Cache.afterWait_eq slot named, List.map_cons, List.map_replicate]
    | true =>
      obtain ⟨d, set⟩ := Option.isSome_iff_exists.mp (limited rfl)
      obtain ⟨t, run, rfl, phases⟩ := Flight.run_crowd_expired (s := c.flight b) rfl empty turned
        comes_back others alive set
      refine ⟨t, r :: List.replicate others (.error (.error (.timedOut b.key.name))), run, slot,
        ?_, ?_⟩
      · rw [phases, List.map_cons, List.map_replicate]
        rfl
      · rw [if_pos rfl, List.map_cons, List.map_replicate]
        rfl

end Pool

end TileEngine
