import TileEngine.Proofs.Cache.Nested
import TileEngine.Proofs.Cache.Told
import TileEngine.Proofs.Engine.Life

/-!
Updates of resources. A tick after whose actions the engine is running tells its span of time to
the payloads that are cached and loaded by then, once to each of them; no other tick tells anybody
anything. So over the whole life of an engine, whatever is done to it and to its resources, what a
payload has been told adds up to those ticks during which it was there.
-/

namespace TileEngine

open scoped List

/-- What the engine itself reports. -/
def Event.OfEngine : Event → Prop
  | .initializing .. | .reinitialized _ | .firstTick | .quitting _ | .unhandled _ | .handled _ => True
  | _ => False

theorem Event.OfEngine.silent {event : Event} (own : event.OfEngine) : event.Silent := by
  cases event with
  | ticked => contradiction
  | _ => rfl

theorem Event.OfEngine.quiet {event : Event} (own : event.OfEngine) : event.Quiet := by
  intro key same
  rw [same] at own
  contradiction

namespace Engine

/-- The engine as a tick leaves it before the resources are told: time has passed, and actions that
were due have been performed. -/
def acted (e : Engine) (delta : Duration) : Engine :=
  match e.start.clock.add? delta with
  | none => e.start
  | some clock => (performDue { e.start with clock := clock }).1

/-- A tick takes place, and the engine is running after its actions. -/
def Updates (e : Engine) (delta : Duration) : Prop :=
  e.Advances delta ∧ (e.acted delta).stage = .running

instance (e : Engine) (delta : Duration) : Decidable (e.Updates delta) :=
  inferInstanceAs (Decidable (_ ∧ _))

/-- All that happened to the resources is that the engine has put something on record. -/
def Notes (e e' : Engine) : Prop :=
  ∃ events, e'.cache = e.cache.recordAll events ∧ ∀ event ∈ events, event.OfEngine

/-- What a tick does to the resources. -/
structure Tells (e : Engine) (delta : Duration) : Prop where
  /-- The actions that are performed before are those that are due. -/
  performs : ∀ advances : e.Advances delta,
    Performs { e.start with clock := ⟨_, advances.2⟩ } (e.performed (.tick delta)) (e.acted delta)
  /-- Nobody is told twice. -/
  once : (e.acted delta).cache.present.Nodup
  /-- Each payload of a cached entry that is loaded by then is told, and no other one. -/
  told : (e.tick delta).1.cache.told = e.cache.told ++
    if e.Updates delta then (e.acted delta).cache.present.map (·, delta) else []
  frames : (e.tick delta).1.frames = e.frames + if e.Updates delta then 1 else 0

variable {e e' e'' : Engine} {delta : Duration}

/-! ## What the engine puts on record -/

namespace Notes

theorem refl (e : Engine) : Notes e e := ⟨[], rfl, by simp⟩

theorem trans (first : Notes e e') (second : Notes e' e'') : Notes e e'' := by
  obtain ⟨events, same, own⟩ := first
  obtain ⟨events', same', own'⟩ := second
  refine ⟨events ++ events', ?_, List.forall_mem_append.mpr ⟨own, own'⟩⟩
  rw [same', same, Cache.recordAll, Cache.recordAll, Cache.recordAll, List.foldl_append]

theorem one (event : Event) (own : event.OfEngine) (same : e'.cache = e.cache.record event) :
    Notes e e' :=
  ⟨[event], same, by simpa using own⟩

theorem of_same (same : e'.cache = e.cache) : Notes e e' := ⟨[], same, by simp⟩

theorem start (e : Engine) : Notes e e.start := by
  unfold Engine.start
  split
  · exact one .firstTick trivial rfl
  · exact refl e

theorem init (e : Engine) : Notes e e.init := by
  unfold Engine.init
  split
  · exact one (.initializing _ _) trivial rfl
  · exact one (.reinitialized _) trivial rfl

theorem execute (e : Engine) (action : Action) : Notes e (e.execute action) := by
  cases action with
  | quit => exact one (.quitting e.frames) trivial rfl
  | pause => exact of_same rfl
  | resume => exact of_same rfl
  | pauseToggle => exact of_same rfl
  | custom id =>
    by_cases handled : e.handlesCustom = true
    · exact one (.handled id) trivial (by rw [Engine.execute, if_pos handled]; rfl)
    · exact one (.unhandled id) trivial (by rw [Engine.execute, if_neg handled]; rfl)

theorem perform (e : Engine) (entries : List Scheduled) : Notes e (e.perform entries) := by
  induction entries generalizing e with
  | nil => exact refl e
  | cons first rest ih => exact (execute e first.action).trans (ih _)

theorem told (notes : Notes e e') : e'.cache.told = e.cache.told := by
  obtain ⟨events, same, own⟩ := notes
  have nothing : events.filterMap Event.told? = [] := by
    rw [List.filterMap_eq_nil_iff]
    exact fun event member => (own event member).silent
  rw [same, Cache.told_recordAll, nothing, List.append_nil]

end Notes

/-! ## A tick -/

theorem acted_of_advances (advances : e.Advances delta) :
    e.acted delta = (performDue { e.start with clock := ⟨_, advances.2⟩ }).1 := by
  have sum : e.start.clock.add? delta = some ⟨_, advances.2⟩ := by
    rw [clock_start, Duration.add?, Duration.ofNanos?, dif_pos advances.2]
  unfold acted
  rw [sum]

theorem performs_acted (advances : e.Advances delta) :
    Performs { e.start with clock := ⟨_, advances.2⟩ } (e.performed (.tick delta))
      (e.acted delta) := by
  have performed : e.performed (.tick delta) =
      (performDue { e.start with clock := ⟨_, advances.2⟩ }).2 := by
    rw [Engine.performed, tick_eq_performDue advances]
    rfl
  rw [performed, acted_of_advances advances]
  exact performs_performSteps _ _

theorem tick_eq_acted (advances : e.Advances delta) :
    (e.tick delta).1 = (e.acted delta).advance delta := by
  rw [tick_eq_performDue advances, acted_of_advances advances]

theorem frames_perform (e : Engine) (entries : List Scheduled) :
    (e.perform entries).frames = e.frames := by
  induction entries generalizing e with
  | nil => rfl
  | cons first rest ih => exact (ih _).trans (frames_execute e first.action)

theorem Performs.notes {entries : List Scheduled} (performs : Performs e entries e') :
    Notes e e' ∧ e'.frames = e.frames := by
  have cache := congrArg Engine.cache performs.effect
  have frames := congrArg Engine.frames performs.effect
  exact ⟨(Notes.perform e entries).trans (.of_same cache), frames.trans (frames_perform e entries)⟩

/-- While actions are performed nothing is done to the resources. -/
theorem notes_performSteps (e : Engine) (clock : Duration) (steps : Nat) :
    Notes e (performSteps steps { e.start with clock := clock }).1 ∧
      (performSteps steps { e.start with clock := clock }).1.frames = e.frames := by
  obtain ⟨notes, frames⟩ := (performs_performSteps steps { e.start with clock := clock }).notes
  have started : Notes e { e.start with clock := clock } := (Notes.start e).trans (.of_same rfl)
  exact ⟨started.trans notes, frames.trans (frames_start e)⟩

theorem notes_acted (e : Engine) (delta : Duration) :
    Notes e (e.acted delta) ∧ (e.acted delta).frames = e.frames := by
  unfold acted
  split
  · exact ⟨.start e, frames_start e⟩
  · exact notes_performSteps e _ e.start.actions.len

/-- A tick that does not find the engine running after its actions only puts something on record. -/
theorem notes_tick (idle : ¬e.Updates delta) :
    Notes e (e.tick delta).1 ∧ (e.tick delta).1.frames = e.frames := by
  by_cases advances : e.Advances delta
  · have still : (e.acted delta).stage ≠ .running := fun running => idle ⟨advances, running⟩
    rw [tick_eq_acted advances, advance, if_neg still]
    exact notes_acted e delta
  · rw [(tick_of_not_advances advances).2]
    split
    · exact ⟨.init e, frames_init e⟩
    · exact ⟨.start e, frames_start e⟩

theorem tick_of_updates (updates : e.Updates delta) :
    (e.tick delta).1 =
      { e.acted delta with
        cache := (e.acted delta).cache.tick delta
        frames := (e.acted delta).frames + 1 } := by
  rw [tick_eq_acted updates.1, advance, if_pos updates.2]

/-! ## Other calls -/

/-- A call that is about neither time nor resources. -/
def Call.Aside : Call → Prop
  | .tick _ | .resources _ => False
  | _ => True

theorem notes_queue (e : Engine) (action : Action) (due : Duration) :
    Notes e ((e.queue action due).toOption.getD e) ∧
      ((e.queue action due).toOption.getD e).frames = e.frames := by
  obtain ⟨q, same⟩ := queue_frame e action due
  rw [same]
  exact ⟨.of_same rfl, rfl⟩

theorem notes_call (e : Engine) {call : Call} (aside : call.Aside) :
    Notes e (e.call call) ∧ (e.call call).frames = e.frames := by
  cases call with
  | init => exact ⟨.init e, frames_init e⟩
  | tick delta => contradiction
  | execute action => exact ⟨.execute e action, frames_execute e action⟩
  | queue action due => exact notes_queue e action due
  | queueNext action => exact notes_queue e action e.clock
  | resources work => contradiction

end Engine

/-- An engine, and what refers to its resources from outside. -/
structure Session where
  engine : Engine
  out : List Handle
  kept : List PayloadId
  leaving : Option BlockId

/-- A tick that tells the resources a span of time. -/
structure Update where
  delta : Duration
  /-- The cache when the updates begin. -/
  cache : Cache

namespace Session

def pool (w : Session) : Pool := ⟨w.engine.cache, w.out, w.kept, w.leaving⟩

/-- Callers work on the resources, with any number of effects of any of them. They load and evict,
but do not say of a payload that it was told the time. -/
structure Works (w w' : Session) : Prop where
  run : Pool.Run w.pool w'.pool
  silent : w'.engine.cache.told = w.engine.cache.told
  engine : w'.engine = { w.engine with cache := w'.engine.cache }

/-- Payloads are told a span of time, one after the other. Whatever they do then, and whatever
others do meanwhile, it stays settled who is to be told. -/
inductive Delivers (delta : Duration) : Session → List PayloadId → Session → Prop
  | done (w : Session) : Delivers delta w [] w
  | tell {w w' : Session} {p : PayloadId} {rest : List PayloadId} (voice : Option String)
      (others : Delivers delta { w with engine := w.engine.record (.ticked p voice delta) } rest w') :
      Delivers delta w (p :: rest) w'
  | work {w w' w'' : Session} {payloads : List PayloadId} (works : Works w w')
      (others : Delivers delta w' payloads w'') : Delivers delta w payloads w''

/-- What may become of a new engine, and the ticks by then that have told the resources something. -/
inductive Course (config : Config) (source : Source) (handlesCustom : Bool) :
    Session → List Update → Prop
  | new : Course config source handlesCustom ⟨.new config source handlesCustom, [], [], none⟩ []
  | call {w : Session} {updates : List Update} (call : Engine.Call) (aside : call.Aside)
      (before : Course config source handlesCustom w updates) :
      Course config source handlesCustom { w with engine := w.engine.call call } updates
  | work {w w' : Session} {updates : List Update} (works : Works w w')
      (before : Course config source handlesCustom w updates) :
      Course config source handlesCustom w' updates
  | idle {w : Session} {updates : List Update} {delta : Duration} (idle : ¬w.engine.Updates delta)
      (before : Course config source handlesCustom w updates) :
      Course config source handlesCustom { w with engine := (w.engine.tick delta).1 } updates
  /-- A tick breaks off among its actions, because whoever takes custom actions panics. -/
  | broken {w : Session} {updates : List Update} {delta : Duration}
      (advances : w.engine.Advances delta) (steps : Nat)
      (before : Course config source handlesCustom w updates) :
      Course config source handlesCustom
        { w with
          engine := (Engine.performSteps steps
            { w.engine.start with clock := ⟨_, advances.2⟩ }).1 }
        updates
  /-- A tick tells the resources. Whoever takes custom actions may have worked on them before. -/
  | update {w v w' : Session} {updates : List Update} {delta : Duration}
      (runs : w.engine.Updates delta)
      (meanwhile : Works { w with engine := w.engine.acted delta } v)
      (delivers : Delivers delta v v.engine.cache.present w')
      (before : Course config source handlesCustom w updates) :
      Course config source handlesCustom
        { w' with engine := { w'.engine with frames := w'.engine.frames + 1 } }
        (updates ++ [⟨delta, v.engine.cache⟩])

/-- Who has been told what, and what the next tick will tell. -/
structure Told (w : Session) (updates : List Update) : Prop where
  tick : ∀ delta, w.engine.Tells delta
  frames : w.engine.frames = updates.length
  /-- No payload was told twice by one tick. -/
  once : ∀ u ∈ updates, u.cache.present.Nodup
  /-- Those were there that cached entries had loaded when the updates began. -/
  there : ∀ u ∈ updates, ∀ p, p ∈ u.cache.present ↔
    ∃ id ∈ u.cache.order, ∃ b, u.cache.block? id = some b ∧ b.slot.state = .loaded p
  /-- A payload has been told by those ticks for which it was there, and all of their time. -/
  heard : ∀ p, w.engine.cache.heard p = (updates.filter (p ∈ ·.cache.present)).map Update.delta
  total : ∀ p, ((w.engine.cache.heard p).map Duration.nanos).sum =
    ((updates.filter (p ∈ ·.cache.present)).map (·.delta.nanos)).sum

/-- The books are in order, and no payload is in two entries. -/
structure Fit (w : Session) : Prop where
  sound : Pool.Sound w.pool
  apart : w.engine.cache.Apart

variable {w w' : Session} {updates : List Update} {delta : Duration} {config : Config}
  {source : Source} {handlesCustom : Bool} {payloads : List PayloadId}

theorem Works.refl (w : Session) : Works w w := ⟨.refl, rfl, rfl⟩

/-- What one caller does is work, if it tells nobody the time. -/
theorem works_of_leads {t : Pool} (leads : Pool.Leads w.pool t)
    (silent : t.cache.told = w.engine.cache.told) :
    ∃ w', Works w w' ∧ w'.engine = { w.engine with cache := t.cache } ∧ w'.out ~ t.out ∧
      w'.kept ~ t.kept ∧ w'.leaving = t.leaving := by
  obtain ⟨out, kept, outs, kepts, run⟩ := leads w.out w.kept (.refl _) (.refl _)
  exact ⟨⟨{ w.engine with cache := t.cache }, out, kept, t.leaving⟩, ⟨run, silent, rfl⟩, rfl, outs,
    kepts, rfl⟩

/-! ## The books -/

namespace Fit

theorem recordAll (fit : Fit w) {e : Engine} {events : List Event}
    (same : e.cache = w.engine.cache.recordAll events) (quiet : ∀ event ∈ events, event.Quiet) :
    Fit { w with engine := e } := by
  have all := Cache.recordAll_eq w.engine.cache events
  rw [all] at same
  have lost : ∀ key, .lost key ∈ e.cache.log → .lost key ∈ w.engine.cache.log := by
    intro key
    have recorded := (Cache.Recorded.recordAll quiet w.engine.cache).quiet key
    rwa [all, ← same] at recorded
  have blocks : e.cache.blocks = w.engine.cache.blocks := by rw [same]
  have order : e.cache.order = w.engine.cache.order := by rw [same]
  have cells : e.cache.cells = w.engine.cache.cells := by rw [same]
  have alive : e.cache.open_ = w.engine.cache.open_ := by rw [same]
  exact ⟨fit.sound.step (@Pool.Step.aside w.pool e.cache blocks order cells alive lost),
    fit.apart.of_blocks (Nat.le_of_eq (congrArg Array.size cells.symm)) blocks⟩

theorem notes (fit : Fit w) {e : Engine} (notes : w.engine.Notes e) : Fit { w with engine := e } := by
  obtain ⟨events, same, own⟩ := notes
  exact fit.recordAll same fun event member => (own event member).quiet

theorem works (fit : Fit w) (works : Works w w') : Fit w' :=
  ⟨fit.sound.run works.run, works.run.apart fit.apart⟩

/-- The books when the updates of a tick begin. -/
theorem meanwhile (fit : Fit w) (works : Works { w with engine := w.engine.acted delta } w') :
    Fit w' :=
  (fit.notes (w.engine.notes_acted delta).1).works works

theorem new (config : Config) (source : Source) (handlesCustom : Bool) :
    Fit ⟨.new config source handlesCustom, [], [], none⟩ := by
  have run : Pool.Run (Pool.start source config.waitLimit)
      ⟨(Engine.new config source handlesCustom).cache, [], [], none⟩ :=
    (Relation.ReflTransGen.single (Pool.step_addLoader _ Loader.png)).tail
      (Pool.step_addLoader _ Loader.tileMap)
  exact ⟨(Pool.Sound.start source config.waitLimit).run run,
    run.apart (Cache.Apart.new source config.waitLimit)⟩

theorem nodup (fit : Fit w) : w.engine.cache.present.Nodup :=
  Cache.nodup_present fit.apart fit.sound.nodup

/-- What the next tick will tell. -/
theorem tells (fit : Fit w) (delta : Duration) : w.engine.Tells delta := by
  obtain ⟨notes, frames⟩ := w.engine.notes_acted delta
  refine ⟨Engine.performs_acted, (fit.notes notes).nodup, ?_, ?_⟩
  · by_cases runs : w.engine.Updates delta
    · rw [if_pos runs, Engine.tick_of_updates runs]
      exact (Cache.told_tick _ delta).trans (congrArg (· ++ _) notes.told)
    · rw [if_neg runs, List.append_nil]
      exact (Engine.notes_tick runs).1.told
  · by_cases runs : w.engine.Updates delta
    · rw [if_pos runs, Engine.tick_of_updates runs]
      exact congrArg (· + 1) frames
    · rw [if_neg runs]
      exact (Engine.notes_tick runs).2

/-- Each payload that is to be told is told once. -/
theorem delivers (fit : Fit w) (delivers : Delivers delta w payloads w') :
    Fit w' ∧ w'.engine.frames = w.engine.frames ∧
      w'.engine.cache.told = w.engine.cache.told ++ payloads.map (·, delta) := by
  induction delivers with
  | done w => exact ⟨fit, rfl, (List.append_nil _).symm⟩
  | @tell w w' p rest voice _ ih =>
    have quiet : ∀ event ∈ [Event.ticked p voice delta], event.Quiet := by
      simp [Event.Quiet]
    obtain ⟨fit', frames, told⟩ := ih (fit.recordAll rfl quiet)
    refine ⟨fit', frames, ?_⟩
    have first : (w.engine.record (.ticked p voice delta)).cache.told =
        w.engine.cache.told ++ [(p, delta)] := Cache.told_record _ _
    rw [told, first, List.append_assoc]
    rfl
  | @work w w' w'' payloads works _ ih =>
    obtain ⟨fit', frames, told⟩ := ih (fit.works works)
    have same : w'.engine.frames = w.engine.frames := by rw [works.engine]
    rw [works.silent] at told
    exact ⟨fit', frames.trans same, told⟩

end Fit

/-! ## Whole lives -/

theorem Course.fit (course : Course config source handlesCustom w updates) : Fit w := by
  induction course with
  | new => exact .new config source handlesCustom
  | @call w updates call aside _ ih => exact ih.notes (w.engine.notes_call aside).1
  | work works _ ih => exact ih.works works
  | idle idle _ ih => exact ih.notes (Engine.notes_tick idle).1
  | broken advances steps _ ih => exact ih.notes (Engine.notes_performSteps _ _ steps).1
  | @update w v w' updates delta runs meanwhile delivers _ ih =>
    obtain ⟨fit, -, -⟩ := (ih.meanwhile meanwhile).delivers delivers
    exact ⟨fit.sound, fit.apart⟩

/-- The loaders of a new engine are honest and tell nobody the time. -/
theorem loaders_new (config : Config) (source : Source) (handlesCustom : Bool) :
    ∀ l ∈ (Engine.new config source handlesCustom).cache.loaders,
      l.Honest ∧ l.Reports Event.Silent := by
  intro l member
  change l ∈ [Loader.png, Loader.tileMap] at member
  simp only [List.mem_cons, List.not_mem_nil, or_false] at member
  rcases member with rfl | rfl
  · exact ⟨Loader.png_honest, Loader.png_reports fun _ _ => rfl⟩
  · exact ⟨Loader.tileMap_honest, Loader.tileMap_reports fun _ => rfl⟩

/-- To load a resource is work, whatever comes of it. -/
theorem Fit.works_load (fit : Fit w) (still : w.leaving = none)
    (alive : w.engine.cache.open_ = true)
    (loaders : ∀ l ∈ w.engine.cache.loaders, l.Honest ∧ l.Reports Event.Silent) (key : Key) :
    ∃ w', Works w w' ∧ w'.engine = { w.engine with cache := (w.engine.cache.load key).1 } := by
  obtain ⟨e, out, kept, leaving⟩ := w
  obtain rfl : leaving = none := still
  obtain ⟨left, leads, -⟩ :=
    Pool.leads_load fit.sound alive (fun l member => (loaders l member).1) key
  have silent := (Cache.upheld_told e.cache.told).load
    ⟨rfl, fun l member => (loaders l member).2⟩ key
  obtain ⟨w', works, same, -⟩ := works_of_leads (w := ⟨e, out, kept, none⟩) leads silent.1
  exact ⟨w', works, same⟩

/-- To drop a handle is work. -/
theorem works_release {h : Handle} (still : w.leaving = none) (mine : h ∈ w.out) :
    ∃ w', Works w w' ∧ w'.engine = { w.engine with cache := w.engine.cache.release h } := by
  obtain ⟨e, out, kept, leaving⟩ := w
  obtain rfl : leaving = none := still
  have leads := (Pool.leads_release e.cache h (out.erase h) kept).reorder
    (List.perm_cons_erase mine) (.refl _)
  obtain ⟨w', works, same, -⟩ := works_of_leads (w := ⟨e, out, kept, none⟩) leads
    (Cache.told_releaseAll e.cache [h])
  exact ⟨w', works, same⟩

/-- Payloads are told without anything happening meanwhile. -/
theorem delivers_all (voice : PayloadId → Option String) (delta : Duration) (w : Session)
    (payloads : List PayloadId) :
    Delivers delta w payloads
      { w with
        engine := { w.engine with
          cache := w.engine.cache.recordAll (payloads.map fun p => .ticked p (voice p) delta) } } := by
  induction payloads generalizing w with
  | nil => exact .done w
  | cons p rest ih => exact .tell (voice p) (ih _)

/-- A tick of the engine, nobody doing anything meanwhile, is among what may become of it. -/
theorem Course.tick (course : Course config source handlesCustom w updates) (delta : Duration) :
    Course config source handlesCustom { w with engine := (w.engine.tick delta).1 }
      (updates ++ if w.engine.Updates delta then [⟨delta, (w.engine.acted delta).cache⟩] else []) := by
  by_cases runs : w.engine.Updates delta
  · rw [if_pos runs, Engine.tick_of_updates runs]
    let c := (w.engine.acted delta).cache
    exact .update runs (.refl _) (delivers_all (fun p => (c.payload? p).bind Payload.voice) delta _ _)
      course
  · rw [if_neg runs, List.append_nil]
    exact .idle runs course

theorem heard_congr {c d : Cache} (told : d.told = c.told) (p : PayloadId) : d.heard p = c.heard p := by
  rw [Cache.heard, told]
  rfl

theorem Course.frames (course : Course config source handlesCustom w updates) :
    w.engine.frames = updates.length := by
  induction course with
  | new => rfl
  | @call w updates call aside _ ih => exact (w.engine.notes_call aside).2.trans ih
  | @work w w' updates works _ ih =>
    rw [works.engine]
    exact ih
  | idle idle _ ih => exact (Engine.notes_tick idle).2.trans ih
  | broken advances steps _ ih => exact (Engine.notes_performSteps _ _ steps).2.trans ih
  | @update w v w' updates delta runs meanwhile delivers before ih =>
    obtain ⟨-, frames⟩ := w.engine.notes_acted delta
    obtain ⟨-, frames', -⟩ := (before.fit.meanwhile meanwhile).delivers delivers
    rw [meanwhile.engine] at frames'
    rw [List.length_append, ← ih, ← frames]
    exact congrArg (· + 1) frames'

theorem Course.once (course : Course config source handlesCustom w updates) :
    ∀ u ∈ updates, u.cache.present.Nodup := by
  induction course with
  | new => simp
  | call call aside _ ih => exact ih
  | work works _ ih => exact ih
  | idle idle _ ih => exact ih
  | broken advances steps _ ih => exact ih
  | @update w v w' updates delta runs meanwhile delivers before ih =>
    refine List.forall_mem_append.mpr ⟨ih, ?_⟩
    intro u last
    rw [List.mem_singleton.mp last]
    exact (before.fit.meanwhile meanwhile).nodup

theorem Course.heard (course : Course config source handlesCustom w updates) (p : PayloadId) :
    w.engine.cache.heard p = (updates.filter (p ∈ ·.cache.present)).map Update.delta := by
  induction course with
  | new => rfl
  | @call w updates call aside _ ih =>
    exact (heard_congr (w.engine.notes_call aside).1.told p).trans ih
  | work works _ ih => exact (heard_congr works.silent p).trans ih
  | idle idle _ ih => exact (heard_congr (Engine.notes_tick idle).1.told p).trans ih
  | broken advances steps _ ih =>
    exact (heard_congr (Engine.notes_performSteps _ _ steps).1.told p).trans ih
  | @update w v w' updates delta runs meanwhile delivers before ih =>
    obtain ⟨notes, -⟩ := w.engine.notes_acted delta
    have fit := before.fit.meanwhile meanwhile
    obtain ⟨-, -, told⟩ := fit.delivers delivers
    have own := Cache.heard_once fit.nodup delta p
    have before_that : v.engine.cache.told = w.engine.cache.told := meanwhile.silent.trans notes.told
    change w'.engine.cache.heard p = _
    rw [Cache.heard_of_told told, own, heard_congr before_that, ih, List.filter_append,
      List.map_append]
    refine congrArg (_ ++ ·) ?_
    by_cases there : p ∈ v.engine.cache.present
    · simp [there]
    · simp [there]

/-- Whatever becomes of an engine and its resources: a tick tells its span of time to the payloads
that are there, if the engine is running after its actions, and to nobody otherwise; there are as
many frames as ticks that did; and what a payload has been told are those ticks for which it was
there. -/
theorem told_of_course (course : Course config source handlesCustom w updates) :
    w.Told updates := by
  refine ⟨course.fit.tells, course.frames, course.once, ?_, course.heard, ?_⟩
  · exact fun u _ p => Cache.mem_present_iff
  · intro p
    rw [course.heard p, List.map_map]
    rfl

/-- A payload is told by the first of three ticks. The second one finds the engine paused, and before
the third one the entry is evicted. -/
theorem told_of_course_evicted :
    let span (n : Fin 100) : Duration := ⟨n, Nat.lt_trans n.isLt (by decide)⟩
    let new := Engine.new .standard (.table []) false
    let made : Engine :=
      { new.init with cache := (new.init.cache.place "clockwork" (.note "" [])).1 }
    let resumed := (((made.tick (span 10)).1.execute .pause).tick (span 20)).1.execute .resume
    let evicted : Engine := { resumed with cache := resumed.cache.release ⟨.note, some 0⟩ }
    let last := (evicted.tick (span 30)).1
    (∃ w updates, Course .standard (.table []) false w updates ∧ w.engine = last ∧ w.Told updates) ∧
      last.frames = 2 ∧ last.cache.heard 0 = [span 10] ∧ last.cache.order = [] := by
  intro span new made resumed evicted last
  let h : Handle := ⟨.note, some 0⟩
  have place : Works ⟨new.init, [], [], none⟩ ⟨made, [h], [], none⟩ :=
    ⟨.single (Pool.Step.place "clockwork" (.note "" []) rfl List.nil_subperm),
      Cache.told_place _ _ _, rfl⟩
  have running : Course .standard (.table []) false ⟨made, [h], [], none⟩ [] :=
    .work place (.call .init trivial .new)
  have paused := Course.call (.execute .pause) trivial (running.tick (span 10))
  have again := Course.call (.execute .resume) trivial (paused.tick (span 20))
  have mine : h ∈ (⟨resumed, [h], [], none⟩ : Session).out := List.mem_singleton.mpr rfl
  obtain ⟨w, works, same⟩ := works_release rfl mine
  have course := (Course.work works again).tick (span 30)
  have there : (w.engine.tick (span 30)).1 = last := by rw [same]
  exact ⟨⟨_, _, course, there, told_of_course course⟩, by decide +kernel, by decide +kernel,
    by decide +kernel⟩

end Session

end TileEngine
