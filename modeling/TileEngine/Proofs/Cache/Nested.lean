import TileEngine.Proofs.Cache.Calm
import TileEngine.Proofs.Cache.Turns

/-!
Loads inside loads. The decoder of an entry asks the cache for further resources, and
the same caller loads those while the entry stays claimed. With honest loaders all that
is a run of the pool, and no handle is left over, except by a call that never returns.
-/

namespace TileEngine

open scoped List

/-- What a script that has ended leaves to its caller: the handles of its payload. -/
def Outcome.Leaves : Outcome → List Handle → Prop
  | .produced payload, left => left = payload.handles
  | .refused _, left => left = []
  | .halted failure, left => left = [] ∧ (∃ message, failure = .panic message) ∨ failure = .stuck

namespace Pool

/-- A handle that callers may count on: one of theirs, or one in a payload they hold. -/
def Relies (s : Pool) (h : Handle) : Prop :=
  h ∈ s.out ∨ ∃ p ∈ s.kept, ∃ payload, s.cache.payload? p = some payload ∧ h ∈ payload.handles

/-- A call has come back, or never does. Only then it may have kept handles. -/
structure Returned (s : Pool) (d : Cache) (left : List Handle) (stuck : Prop) : Prop where
  leads : Leads s { s with cache := d, out := left ++ s.out }
  calm : s.cache.Calm d
  nothing : left = [] ∨ stuck

/-- A way to get payloads that keeps the books, and comes to what one call comes to. -/
def Follows (resolve : Cache.Resolver) : Prop :=
  ∀ (s : Pool) (h : Handle) (id : BlockId) (b : Block), Sound s → s.leaving = none →
    (∀ l ∈ s.cache.loaders, l.Honest) → s.Relies h → h.block = some id →
    s.cache.block? id = some b →
    (∃ left, s.Returned (resolve s.cache id).1 left ((resolve s.cache id).2 = .error .stuck)) ∧
      ∃ after, (resolve s.cache id).1.slotAt? id = some after ∧
        b.slot.Turned b.key (if s.cache.open_ then s.cache.waitLimit else none) after
          (resolve s.cache id).2

variable {s : Pool} {c d : Cache} {out taken : List Handle} {kept : List PayloadId}
  {h : Handle} {id : BlockId}

theorem bound_of_kept (sound : Sound s) {p : PayloadId} (mine : p ∈ s.kept) {payload : Payload}
    (found : s.cache.payload? p = some payload) (inside : h ∈ payload.handles) :
    h ∈ s.cache.bound := by
  have held : 0 < s.cache.holdersAt p := by
    rw [sound.holders p, List.count_pos_iff]
    exact List.mem_append_left _ (List.mem_append_left _ mine)
  obtain ⟨cell, here, count⟩ := Cache.held_of_holdersAt held
  rw [Cache.payload?, here, Option.map_some, Option.some.injEq] at found
  refine List.mem_flatMap.mpr ⟨cell, Array.mem_toList_iff.mpr (Array.mem_of_getElem? here), ?_⟩
  rw [Cell.handles, if_neg (by omega), found]
  exact inside

theorem Relies.live (relies : s.Relies h) (sound : Sound s) : h ∈ s.live := by
  rcases relies with mine | ⟨p, kept, payload, found, inside⟩
  · exact List.mem_append_left _ mine
  · exact List.mem_append_right _ (bound_of_kept sound kept found inside)

theorem Relies.calm (relies : s.Relies h) (calm : s.cache.Calm d) (more : List Handle) :
    Relies { s with cache := d, out := more ++ s.out } h := by
  rcases relies with mine | ⟨p, kept, payload, found, inside⟩
  · exact .inl (List.mem_append_right _ mine)
  · exact .inr ⟨p, kept, payload, calm.payloads p payload found, inside⟩

theorem leads_recorded (r : Cache.Recorded c d) (out : List Handle) (kept : List PayloadId) :
    Leads ⟨c, out, kept, none⟩ ⟨d, out, kept, none⟩ := by
  intro o k outs kepts
  have same := r.same
  refine ⟨o, k, outs, kepts, .single (@Step.aside ⟨c, o, k, none⟩ d ?_ ?_ ?_ ?_ r.quiet)⟩
  · rw [same]
  · rw [same]
  · rw [same]
  · rw [same]

/-! ## One load -/

theorem leads_claim (sound : Sound ⟨c, out, kept, none⟩) (relies : Relies ⟨c, out, kept, none⟩ h)
    (refers : h.block = some id) {b : Block} (found : c.block? id = some b)
    (claims : b.slot.look none = .claim) :
    Leads ⟨c, out, kept, none⟩ ⟨c.modifySlot id Slot.claimed, out, kept, none⟩ := by
  intro o k outs kepts
  have live : h ∈ o ++ c.bound := (outs.append_right _).mem_iff.mpr (relies.live sound)
  exact ⟨o, k, outs, kepts, .single (@Step.claim ⟨c, o, k, none⟩ h id b none live refers found claims)⟩

theorem leads_abandon (sound : Sound ⟨c, out, kept, none⟩) (relies : Relies ⟨c, out, kept, none⟩ h)
    (refers : h.block = some id) {b : Block} (found : c.block? id = some b)
    (loading : b.slot.state = .loading) :
    Leads ⟨c, out, kept, none⟩ ⟨c.abandon id, out, kept, none⟩ := by
  intro o k outs kepts
  have live : h ∈ o ++ c.bound := (outs.append_right _).mem_iff.mpr (relies.live sound)
  exact ⟨o, k, outs, kepts, .single (@Step.abandon ⟨c, o, k, none⟩ h id b live refers found loading)⟩

theorem leads_fill {payload : Payload} (sound : Sound ⟨c, payload.handles ++ out, kept, none⟩)
    (relies : Relies ⟨c, out, kept, none⟩ h) (refers : h.block = some id) {b : Block}
    (found : c.block? id = some b) (loading : b.slot.state = .loading) :
    Leads ⟨c, payload.handles ++ out, kept, none⟩ ⟨(c.fill id payload).1, out, kept, none⟩ := by
  intro o k outs kepts
  obtain ⟨own, rest⟩ := given_away outs
  have live : h ∈ o.diff payload.handles ++ c.bound := by
    rcases relies with mine | ⟨p, holds, content, known, inside⟩
    · exact List.mem_append_left _ (rest.mem_iff.mpr mine)
    · exact List.mem_append_right _ (bound_of_kept sound holds known inside)
  exact ⟨_, k, rest, kepts,
    .single (@Step.fill ⟨c, o, k, none⟩ h id b payload live refers found loading own)⟩

/-! ## Calls that get resources -/

namespace Returned

theorem refl (s : Pool) (stuck : Prop) : s.Returned s.cache [] stuck :=
  ⟨Leads.refl s, Cache.Calm.refl _, .inl rfl⟩

end Returned

theorem returned_getWith {resolve : Cache.Resolver} (follows : Follows resolve)
    (sound : Sound s) (stays : s.leaving = none) (honest : ∀ l ∈ s.cache.loaders, l.Honest)
    (relies : s.Relies h) :
    ∃ left, s.Returned (Cache.getWith resolve s.cache h).1 left
      ((Cache.getWith resolve s.cache h).2 = .error .stuck) := by
  unfold Cache.getWith
  cases refers : h.block with
  | none => exact ⟨[], .refl s _⟩
  | some id =>
    obtain ⟨b, made, -⟩ := Cache.made_of_refsAt (sound.refsAt_pos (relies.live sound) refers)
    obtain ⟨⟨left, returned⟩, -⟩ := follows s h id b sound stays honest relies refers made
    rcases resolved : resolve s.cache id with ⟨d, failure | p⟩
    · simp only [resolved] at returned ⊢
      exact ⟨left, by simpa using returned⟩
    · simp only [resolved] at returned ⊢
      exact ⟨left, returned.leads, returned.calm, returned.nothing.imp_right (by simp)⟩

/-- What a load gives to its caller: the handle, or nothing. -/
def Loads : Except Failure Handle → Kind → List Handle → Prop
  | .ok h, kind, left => left = [h] ∧ h.kind = kind
  | .error failure, _, left => left = [] ∨ failure = .stuck

theorem leads_loadWith {resolve : Cache.Resolver} (follows : Follows resolve)
    (sound : Sound ⟨c, out, kept, none⟩) (alive : c.open_ = true)
    (honest : ∀ l ∈ c.loaders, l.Honest) (key : Key) :
    ∃ left, Leads ⟨c, out, kept, none⟩ ⟨(Cache.loadWith resolve c key).1, left ++ out, kept, none⟩ ∧
      c.Calm (Cache.loadWith resolve c key).1 ∧
      Loads (Cache.loadWith resolve c key).2 key.kind left := by
  have take := leads_lazy alive key out kept
  have calm := Cache.Calm.lazy c key
  have kind : (c.lazy key).2.kind = key.kind := rfl
  unfold Cache.loadWith
  rcases asked : c.lazy key with ⟨d, h⟩
  rw [asked] at take calm kind
  have relies : Relies ⟨d, h :: out, kept, none⟩ h := .inl List.mem_cons_self
  obtain ⟨left, returned⟩ := returned_getWith follows (take.sound sound) rfl
    (calm.honest honest) relies
  have whole := take.trans returned.leads
  have calm' := calm.trans returned.calm
  dsimp only at returned whole ⊢
  rcases got : Cache.getWith resolve d h with ⟨e, failure | r⟩
  · rw [got] at returned whole calm'
    cases failure with
    | stuck =>
      refine ⟨left ++ [h], ?_, calm', .inr rfl⟩
      rwa [List.append_assoc]
    | error cause =>
      have nothing : left = [] := returned.nothing.resolve_right (by simp)
      rw [nothing] at whole
      exact ⟨[], whole.trans (leads_release e h out kept), calm'.trans (.releaseAll e [h]), .inl rfl⟩
    | panic message =>
      have nothing : left = [] := returned.nothing.resolve_right (by simp)
      rw [nothing] at whole
      exact ⟨[], whole.trans (leads_release e h out kept), calm'.trans (.releaseAll e [h]), .inl rfl⟩
  · rw [got] at returned whole calm'
    have nothing : left = [] := returned.nothing.resolve_right (by simp)
    rw [nothing] at whole
    exact ⟨[h], whole, calm', rfl, kind⟩

theorem cons_taken (h : Handle) (taken out : List Handle) :
    h :: (taken ++ out) ~ taken ++ [h] ++ out := by
  rw [List.append_assoc]
  exact List.perm_middle.symm

/-- An honest script gives back what it took, apart from what its payload holds. -/
theorem leads_runScript {resolve : Cache.Resolver} (follows : Follows resolve)
    {script : LoadScript} (honest : script.Honest taken)
    (sound : Sound ⟨c, taken ++ out, kept, none⟩) (alive : c.open_ = true)
    (loaders : ∀ l ∈ c.loaders, l.Honest) :
    ∃ left, Leads ⟨c, taken ++ out, kept, none⟩
        ⟨(Cache.runScript resolve script taken c).1, left ++ out, kept, none⟩ ∧
      c.Calm (Cache.runScript resolve script taken c).1 ∧
      (Cache.runScript resolve script taken c).2.Leaves left := by
  induction honest generalizing c with
  | @finish taken payload own =>
    have parts : payload.handles ++ taken.diff payload.handles ~ taken :=
      List.subperm_append_diff_self_of_count_le (List.subperm_ext_iff.mp own)
    have order : taken ++ out ~ taken.diff payload.handles ++ (payload.handles ++ out) := by
      rw [← List.append_assoc]
      exact (parts.symm.trans List.perm_append_comm).append_right _
    rw [Cache.runScript, ← List.diff_eq_foldl]
    have release := leads_releaseAll c (taken.diff payload.handles) (payload.handles ++ out) kept
    refine ⟨payload.handles, ?_, .releaseAll c _, rfl⟩
    exact release.reorder order (.refl _)
  | fail => exact ⟨[], leads_releaseAll c _ out kept, .releaseAll c _, rfl⟩
  | panic => exact ⟨[], leads_releaseAll c _ out kept, .releaseAll c _, .inl ⟨rfl, _, rfl⟩⟩
  | @record taken event next quiet _ ih =>
    have recorded := Cache.Recorded.record quiet c
    have first := leads_recorded recorded (taken ++ out) kept
    obtain ⟨left, more, calm, leaves⟩ := ih (first.sound sound) alive loaders
    exact ⟨left, first.trans more, (Cache.Calm.recorded recorded).trans calm, leaves⟩
  | @request taken key next _ ih =>
    have take := leads_lazy alive key (taken ++ out) kept
    have calm := Cache.Calm.lazy c key
    have kind : (c.lazy key).2.kind = key.kind := rfl
    rw [Cache.runScript]
    rcases asked : c.lazy key with ⟨d, h⟩
    rw [asked] at take calm kind
    have first := take.reorder (.refl _) (cons_taken h taken out)
    obtain ⟨left, more, calm', leaves⟩ := ih h kind (first.sound sound)
      (calm.open_.trans alive) (calm.honest loaders)
    exact ⟨left, first.trans more, calm.trans calm', leaves⟩
  | @demand taken key next _ _ ih without =>
    obtain ⟨left, first, calm, leaves⟩ := leads_loadWith follows sound alive loaders key
    have sound' := first.sound sound
    rw [Cache.runScript]
    rcases loaded : Cache.loadWith resolve c key with ⟨d, failure | h⟩
    · rw [loaded] at first calm leaves sound'
      cases failure with
      | stuck =>
        refine ⟨left ++ taken, ?_, calm, .inr rfl⟩
        rwa [List.append_assoc]
      | error cause =>
        have nothing : left = [] := leaves.resolve_right (by simp)
        rw [nothing] at first sound'
        obtain ⟨left, more, calm', leaves⟩ := without cause sound' (calm.open_.trans alive)
          (calm.honest loaders)
        exact ⟨left, first.trans more, calm.trans calm', leaves⟩
      | panic message =>
        have nothing : left = [] := leaves.resolve_right (by simp)
        rw [nothing] at first
        exact ⟨[], first.trans (leads_releaseAll d taken out kept), calm.trans (.releaseAll d _),
          .inl ⟨rfl, message, rfl⟩⟩
    · rw [loaded] at first calm leaves
      obtain ⟨rfl, kind⟩ := leaves
      have first := first.reorder (.refl _) (cons_taken h taken out)
      obtain ⟨left, more, calm', leaves⟩ := ih h kind (first.sound sound)
        (calm.open_.trans alive) (calm.honest loaders)
      exact ⟨left, first.trans more, calm.trans calm', leaves⟩
  | @inspect taken h next mine _ ih =>
    have relies : Relies ⟨c, taken ++ out, kept, none⟩ h := .inl (List.mem_append_left _ mine)
    obtain ⟨left, first, calm, nothing⟩ := returned_getWith follows sound rfl loaders relies
    rw [Cache.runScript]
    dsimp only at first calm nothing
    rcases got : Cache.getWith resolve c h with ⟨d, failure | ⟨p, payload⟩⟩
    · rw [got] at first calm nothing
      cases failure with
      | stuck =>
        refine ⟨left ++ taken, ?_, calm, .inr rfl⟩
        rwa [List.append_assoc]
      | error cause =>
        rw [nothing.resolve_right (by simp)] at first
        obtain ⟨left, more, calm', leaves⟩ := ih (.error cause) (first.sound sound)
          (calm.open_.trans alive) (calm.honest loaders)
        exact ⟨left, first.trans more, calm.trans calm', leaves⟩
      | panic message =>
        rw [nothing.resolve_right (by simp)] at first
        exact ⟨[], first.trans (leads_releaseAll d taken out kept), calm.trans (.releaseAll d _),
          .inl ⟨rfl, message, rfl⟩⟩
    · rw [got] at first calm nothing
      rw [nothing.resolve_right (by simp)] at first
      obtain ⟨left, more, calm', leaves⟩ := ih (.ok payload) (first.sound sound)
        (calm.open_.trans alive) (calm.honest loaders)
      exact ⟨left, first.trans more, calm.trans calm', leaves⟩

/-! ## The load of an entry -/

section load

variable {slot : Slot} (relies : Relies ⟨c, out, kept, none⟩ h) (refers : h.block = some id)
  (found : c.slotAt? id = some slot) (empty : slot.state = .empty) (calm : c.Calm d)
  (busy : d.slotAt? id = some slot.claimed)

include relies refers found empty calm busy

theorem returned_abandon (sound : Sound ⟨d, out, kept, none⟩)
    (first : Leads ⟨c, out, kept, none⟩ ⟨d, out, kept, none⟩) (stuck : Prop) :
    Returned ⟨c, out, kept, none⟩ (d.abandon id) [] stuck ∧
      (d.abandon id).slotAt? id = some slot.claimed.failed := by
  obtain ⟨b, here, same⟩ := Cache.block?_of_slotAt? busy
  have relies' : Relies ⟨d, out, kept, none⟩ h := relies.calm calm []
  have loading : b.slot.state = .loading := by rw [same]; rfl
  have free : slot.state ≠ .loading := by rw [empty]; decide
  have ended := leads_abandon sound relies' refers here loading
  refine ⟨⟨first.trans ended, calm.modifySlot found free Slot.failed, .inl rfl⟩, ?_⟩
  rw [Cache.abandon, Cache.slotAt?_modifySlot, if_pos rfl, busy]
  rfl

theorem returned_fill {payload : Payload} (sound : Sound ⟨d, payload.handles ++ out, kept, none⟩)
    (first : Leads ⟨c, out, kept, none⟩ ⟨d, payload.handles ++ out, kept, none⟩) (stuck : Prop) :
    Returned ⟨c, out, kept, none⟩ (d.fill id payload).1 [] stuck ∧
      (d.fill id payload).1.slotAt? id = some (slot.claimed.filled (d.fill id payload).2) := by
  obtain ⟨b, here, same⟩ := Cache.block?_of_slotAt? busy
  have loading : b.slot.state = .loading := by rw [same]; rfl
  have free : slot.state ≠ .loading := by rw [empty]; decide
  have fill := leads_fill sound (relies.calm calm []) refers here loading
  have calm' := (calm.trans (.store d payload)).modifySlot found free (·.filled d.cells.size)
  refine ⟨⟨first.trans fill, calm', .inl rfl⟩, ?_⟩
  have stored : (d.store payload).1.slotAt? id = some slot.claimed := busy
  change ((d.store payload).1.modifySlot id (·.filled d.cells.size)).slotAt? id = _
  rw [Cache.slotAt?_modifySlot, if_pos rfl, stored]
  rfl

theorem returned_settle {outcome : Outcome} {left : List Handle}
    (sound : Sound ⟨d, left ++ out, kept, none⟩)
    (first : Leads ⟨c, out, kept, none⟩ ⟨d, left ++ out, kept, none⟩)
    (leaves : outcome.Leaves left) (key : Key) (limit : Option Duration) :
    (∃ left, Returned ⟨c, out, kept, none⟩ (d.settle id key outcome).1 left
        ((d.settle id key outcome).2 = .error .stuck)) ∧
      ∃ after, (d.settle id key outcome).1.slotAt? id = some after ∧
        slot.Turned key limit after (d.settle id key outcome).2 := by
  cases outcome with
  | produced payload =>
    obtain rfl := leaves
    have silent : (Event.loaded key).Quiet := by simp [Event.Quiet]
    have recorded := Cache.Recorded.record silent d
    have told := Cache.Calm.recorded recorded
    have note := leads_recorded recorded (payload.handles ++ out) kept
    obtain ⟨returned, after⟩ := returned_fill relies refers found empty (calm.trans told)
      (told.busy id _ busy rfl) (note.sound sound) (first.trans note) _
    exact ⟨⟨[], returned⟩, _, after, .produced empty _⟩
  | refused cause =>
    obtain rfl := leaves
    have silent : (Event.notLoaded key cause).Quiet := by simp [Event.Quiet]
    have recorded := Cache.Recorded.record silent d
    have told := Cache.Calm.recorded recorded
    have note := leads_recorded recorded out kept
    obtain ⟨returned, after⟩ := returned_abandon relies refers found empty (calm.trans told)
      (told.busy id _ busy rfl) (note.sound sound) (first.trans note) _
    exact ⟨⟨[], returned⟩, _, after, .failed empty⟩
  | halted failure =>
    rcases leaves with ⟨rfl, message, rfl⟩ | rfl
    · obtain ⟨returned, after⟩ := returned_abandon relies refers found empty calm busy sound first _
      exact ⟨⟨[], returned⟩, _, after, .panicked empty message⟩
    · exact ⟨⟨left, first, calm, .inr rfl⟩, _, busy, .lost empty⟩

end load

theorem returned_waitInVain (s : Pool) (stays : s.leaving = none) {b : Block}
    (found : s.cache.block? id = some b) (loading : b.slot.state = .loading) :
    (∃ left, s.Returned (s.cache.waitInVain b.key).1 left
      ((s.cache.waitInVain b.key).2 = .error .stuck)) ∧
      ∃ after, (s.cache.waitInVain b.key).1.slotAt? id = some after ∧
        b.slot.Turned b.key (if s.cache.open_ then s.cache.waitLimit else none) after
          (s.cache.waitInVain b.key).2 := by
  obtain ⟨c, out, kept, leaving⟩ := s
  obtain rfl := stays
  have here : c.slotAt? id = some b.slot := Cache.slotAt?_of_block? found
  unfold Cache.waitInVain
  dsimp only
  split
  · rename_i limited
    have silent : (Event.timedOut b.key.name).Quiet := by simp [Event.Quiet]
    have recorded := Cache.Recorded.record silent c
    rw [Bool.and_eq_true, Option.isSome_iff_exists] at limited
    obtain ⟨alive, d, set⟩ := limited
    refine ⟨⟨[], leads_recorded recorded out kept, .recorded recorded, .inl rfl⟩, b.slot, here, ?_⟩
    exact .waited loading (by rw [if_pos alive, set])
  · exact ⟨⟨[], .refl _ _⟩, b.slot, here, .stuck⟩

section script

variable {b : Block} (sound : Sound ⟨c, out, kept, none⟩) (honest : ∀ l ∈ c.loaders, l.Honest)
  (relies : Relies ⟨c, out, kept, none⟩ h) (refers : h.block = some id)
  (made : c.block? id = some b) (claims : b.slot.look none = .claim)

include sound honest relies refers made claims

/-- An entry is claimed, and a loader is looked for. -/
theorem leads_prepare {found : Option LoadScript}
    (prepared : (c.modifySlot id Slot.claimed).prepare b.key = (d, found)) :
    Leads ⟨c, out, kept, none⟩ ⟨d, out, kept, none⟩ ∧ c.Calm d ∧
      d.slotAt? id = some b.slot.claimed ∧
      ∀ script, found = some script → c.open_ = true ∧ script.Honest [] := by
  have slot : c.slotAt? id = some b.slot := Cache.slotAt?_of_block? made
  have free : b.slot.state ≠ .loading := by
    rw [(Slot.look_eq_claim_iff.mp claims).1]
    decide
  have calm := (Cache.Calm.refl c).modifySlot slot free Slot.claimed
  have claim := leads_claim sound relies refers made claims
  have busy : (c.modifySlot id Slot.claimed).slotAt? id = some b.slot.claimed := by
    rw [Cache.slotAt?_modifySlot, if_pos rfl, slot]
    rfl
  obtain ⟨recorded, opens⟩ := Cache.prepare_recorded (c := c.modifySlot id Slot.claimed)
    honest b.key
  rw [prepared] at recorded opens
  have told := Cache.Calm.recorded recorded
  exact ⟨claim.trans (leads_recorded recorded out kept), calm.trans told, told.busy id _ busy rfl,
    opens⟩

/-- The script of an entry runs to its end, if it has one; something may be put on record
before. -/
theorem returned_script {resolve : Cache.Resolver} (follows : Follows resolve)
    {script : LoadScript} {e : Cache}
    (prepared : (c.modifySlot id Slot.claimed).prepare b.key = (d, some script))
    (recorded : Cache.Recorded d e) :
    let ran := Cache.runScript resolve script [] e
    (∃ left, Returned ⟨c, out, kept, none⟩ (ran.1.settle id b.key ran.2).1 left
        ((ran.1.settle id b.key ran.2).2 = .error .stuck)) ∧
      ∃ after, (ran.1.settle id b.key ran.2).1.slotAt? id = some after ∧
        b.slot.Turned b.key (if c.open_ then c.waitLimit else none) after
          (ran.1.settle id b.key ran.2).2 := by
  intro ran
  have slot : c.slotAt? id = some b.slot := Cache.slotAt?_of_block? made
  obtain ⟨first, calm, busy, opens⟩ := leads_prepare sound honest relies refers made claims prepared
  obtain ⟨alive, honest'⟩ := opens script rfl
  have told := Cache.Calm.recorded recorded
  have calm := calm.trans told
  have first := first.trans (leads_recorded recorded out kept)
  obtain ⟨left, more, calm', leaves⟩ := leads_runScript follows honest' (first.sound sound)
    (calm.open_.trans alive) (calm.honest honest)
  exact returned_settle relies refers slot (Slot.look_eq_claim_iff.mp claims).1 (calm.trans calm')
    (calm'.busy id _ (told.busy id _ busy rfl) rfl) (more.sound (first.sound sound))
    (first.trans more) leaves b.key _

end script

/-- However deep loads are nested, they keep the books. -/
theorem follows_resolve (depth : Nat) : Follows (Cache.resolve depth) := by
  induction depth with
  | zero =>
    intro s h id b _ _ _ _ _ made
    exact ⟨⟨[], .refl s _⟩, b.slot, Cache.slotAt?_of_block? made, .stuck⟩
  | succ depth ih =>
    intro s h id b sound stays honest relies refers made
    obtain ⟨c, out, kept, leaving⟩ := s
    obtain rfl : leaving = none := stays
    have found : c.slotAt? id = some b.slot := Cache.slotAt?_of_block? made
    unfold Cache.resolve
    dsimp only at made ⊢
    simp only [made]
    cases move : b.slot.look none with
    | take p => exact ⟨⟨[], .refl _ _⟩, b.slot, found, .took (Slot.look_eq_take_iff.mp move)⟩
    | giveUp =>
      obtain ⟨-, n, since, -⟩ := Slot.look_eq_giveUp_iff.mp move
      contradiction
    | wait since =>
      have loading := (Slot.look_eq_wait_iff.mp move).1
      exact returned_waitInVain ⟨c, out, kept, none⟩ rfl made loading
    | claim =>
      dsimp only
      rcases prepared : (c.modifySlot id Slot.claimed).prepare b.key with ⟨d, _ | script⟩
      · obtain ⟨first, calm, busy, -⟩ := leads_prepare sound honest relies refers made move prepared
        obtain ⟨returned, after⟩ := returned_abandon relies refers found
          (Slot.look_eq_claim_iff.mp move).1 calm busy (first.sound sound) first _
        exact ⟨⟨[], returned⟩, _, after, .failed (Slot.look_eq_claim_iff.mp move).1⟩
      · exact returned_script sound honest relies refers made move ih prepared (.refl d)

theorem follows_fetch : Follows Cache.fetch :=
  fun s => follows_resolve s.cache.depthBound s

theorem returned_get (sound : Sound s) (stays : s.leaving = none)
    (honest : ∀ l ∈ s.cache.loaders, l.Honest) (relies : s.Relies h) :
    ∃ left, s.Returned (s.cache.get h).1 left ((s.cache.get h).2 = .error .stuck) :=
  returned_getWith follows_fetch sound stays honest relies

theorem leads_load (sound : Sound ⟨c, out, kept, none⟩) (alive : c.open_ = true)
    (honest : ∀ l ∈ c.loaders, l.Honest) (key : Key) :
    ∃ left, Leads ⟨c, out, kept, none⟩ ⟨(c.load key).1, left ++ out, kept, none⟩ ∧
      c.Calm (c.load key).1 ∧ Loads (c.load key).2 key.kind left :=
  leads_loadWith follows_fetch sound alive honest key

end Pool

end TileEngine
