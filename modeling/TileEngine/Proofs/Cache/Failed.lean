import TileEngine.Proofs.Cache.Nested
import TileEngine.Proofs.Cache.Taken
import TileEngine.Proofs.Loader.Search

/-!
Calls that fail. The loaders of pictures and of maps take handles while they decode, but get no
resource from the cache. Whatever a file holds: a call that fails with them has undone all that it
did on its way, and the cache holds what it held before.
-/

namespace TileEngine

/-- A script that gets no resource from the cache; what it makes is of one kind. -/
def LoadScript.OnlyTakes (kind : Kind) : LoadScript → Prop
  | .finish payload => payload.kind = kind
  | .fail _ | .panic _ => True
  | .record _ next => next.OnlyTakes kind
  | .request _ next => ∀ h, (next h).OnlyTakes kind
  | .demand .. | .inspect .. => False

/-- A loader that gets no resource from the cache and makes what is asked for. -/
def Loader.OnlyTakes (loader : Loader) : Prop :=
  ∀ s context, loader.supports context.key.kind = true →
    (loader.decode s context).OnlyTakes context.key.kind

/-- A script has made something of a kind, or has left nothing behind. It has come to an end. -/
def Outcome.Undone (kind : Kind) (c d : Cache) : Outcome → Prop
  | .produced payload => payload.kind = kind
  | .refused _ | .halted (.panic _) => c.Unchanged d
  | .halted _ => False

/-! ## The loaders of pictures and of maps -/

namespace Loader

theorem png_onlyTakes : png.OnlyTakes := by
  intro s context supported
  have kind : context.key.kind = .bitmap := eq_of_beq supported
  rw [kind]
  change (decodePng s context).OnlyTakes .bitmap
  unfold decodePng
  split
  · trivial
  · split
    · trivial
    · split
      · trivial
      · rfl

theorem tileMap_onlyTakes : tileMap.OnlyTakes := by
  intro s context supported
  have kind : context.key.kind = .tileMap := eq_of_beq supported
  rw [kind]
  change (decodeMap s context).OnlyTakes .tileMap
  unfold decodeMap
  split
  · trivial
  · split
    · trivial
    · unfold mapScript
      split
      · trivial
      · intro image
        dsimp only
        split
        · trivial
        · rfl

theorem onlyTakes_of_builtin {l : Loader} (builtin : l = png ∨ l = tileMap) : l.OnlyTakes := by
  rcases builtin with rfl | rfl
  · exact png_onlyTakes
  · exact tileMap_onlyTakes

end Loader

namespace Cache

variable {c d : Cache} {id : BlockId} {b : Block} {taken : List Handle} {key : Key} {h : Handle}
  {kind : Kind} {failure : Failure}

/-! ## One load -/

/-- A script gives back what it has taken, unless it makes something of it. -/
theorem undone_runScript {resolve : Resolver} {script : LoadScript} (only : script.OnlyTakes kind)
    (before : Taken c d taken) (listed : ∀ id ∈ c.order, 0 < c.refsAt id)
    (alive : c.open_ = true) :
    (runScript resolve script taken d).2.Undone kind c (runScript resolve script taken d).1 := by
  induction script generalizing d taken with
  | finish payload => exact only
  | fail cause => exact before.releaseAll listed alive
  | panic message => exact before.releaseAll listed alive
  | record event next ih => exact ih only (before.then_unchanged (.record d event))
  | request key next ih => exact ih _ (only _) (before.lazy listed key)
  | demand key next => contradiction
  | inspect h next => contradiction

/-- The search for a loader changes nothing, and finds the script of one that supports the kind. -/
theorem prepare_supported (c : Cache) (key : Key) :
    ∃ events, (c.prepare key).1 = c.recordAll events ∧ ∀ script, (c.prepare key).2 = some script →
      c.open_ = true ∧ ∃ l ∈ c.candidates key, ∃ s, script = l.decode s (c.context key) := by
  by_cases alive : c.open_ = true
  · by_cases somebody : c.candidates key = []
    · rw [prepare_unsupported alive somebody]
      exact ⟨[.noLoader key], rfl, nofun⟩
    · cases found : c.source.openStream key.name with
      | error cause =>
        rw [prepare_unopened alive somebody found]
        exact ⟨[.notOpened key.name cause], rfl, nofun⟩
      | ok opened =>
        obtain ⟨refused, taker, search, prepared⟩ := prepare_opened alive somebody found
        rw [prepared]
        cases taker with
        | none =>
          refine ⟨Look.reports (refused ++ []) ++ [.notAccepted key], ?_, nofun⟩
          simp [recordAll]
        | some look =>
          have asked : look.loader ∈ c.candidates key := by
            refine search.order.subset (List.mem_map_of_mem ?_)
            exact List.mem_append_right _ (List.mem_singleton.mpr rfl)
          refine ⟨Look.reports (refused ++ [look]) ++
            look.loader.opening look.rewound (c.context key), ?_, ?_⟩
          · simp [recordAll]
          · rintro script ⟨⟩
            exact ⟨alive, look.loader, asked, look.rewound, rfl⟩
  · refine ⟨[.ownerGone key], ?_, ?_⟩
    · simp [prepare, alive, recordAll]
    · simp [prepare, alive]

/-- The loaders get nothing from the cache, and what an open one lists is referred to. -/
structure Plain (c : Cache) : Prop where
  only : ∀ l ∈ c.loaders, l.OnlyTakes
  listed : c.open_ = true → ∀ id ∈ c.order, 0 < c.refsAt id

/-- Some entry is being loaded. -/
def Busy (c : Cache) : Prop := ∃ id, c.state? id = some .loading

/-- Nothing is being loaded in an entry that has just been asked for. -/
theorem Busy.of_lazy (busy : (c.lazy key).1.Busy) : c.Busy := by
  obtain ⟨id, loading⟩ := busy
  refine ⟨id, ?_⟩
  unfold Cache.lazy acquire at loading
  cases found : c.find? key with
  | some old =>
    rw [found] at loading
    exact (state?_retainBlock c old id).symm.trans loading
  | none =>
    rw [found] at loading
    change (c.insert key Slot.fresh).1.state? id = some .loading at loading
    rw [state?, slotAt?_insert] at loading
    split at loading
    · contradiction
    · exact loading

/-- A call that fails has changed nothing. One that never comes back waits for a load that was under
way. -/
def Undoes (c d : Cache) : Failure → Prop
  | .error _ | .panic _ => c.Unchanged d
  | .stuck => c.Busy

/-- What a caller gets who loads an entry: a payload, which was there already or is of the kind that
was asked for; or nothing, and then nothing has changed. -/
def Settled (kind : Kind) (c : Cache) (answer : Cache × Except Failure PayloadId) : Prop :=
  match answer.2 with
  | .ok p => c.Unchanged answer.1 ∨ ∃ payload, answer.1.payload? p = some payload ∧ payload.kind = kind
  | .error failure => c.Undoes answer.1 failure

/-- A way to get payloads that comes to that. -/
def Settles (resolve : Resolver) : Prop :=
  ∀ (c : Cache) (id : BlockId) (b : Block), c.Plain → c.block? id = some b →
    Settled b.key.kind c (resolve c id)

theorem settled_settle {outcome : Outcome} (empty : c.state? id = some .empty)
    (undone : outcome.Undone kind (c.modifySlot id Slot.claimed) d) (key : Key) :
    Settled kind c (d.settle id key outcome) := by
  cases outcome with
  | produced payload => exact .inr ⟨payload, payload?_fill _ id payload, undone⟩
  | refused cause => exact Unchanged.abandon (undone.trans (.record d _)) empty
  | halted failure =>
    cases failure with
    | stuck => contradiction
    | error cause => contradiction
    | panic message => exact Unchanged.abandon undone empty

theorem settled_waitInVain (busy : c.Busy) (key : Key) : Settled kind c (c.waitInVain key) := by
  unfold waitInVain
  split
  · exact Unchanged.record c _
  · exact busy

theorem settles_resolve (depth : Nat) : Settles (resolve (depth + 1)) := by
  intro c id b plain made
  cases move : b.slot.look none with
  | take p =>
    simp only [resolve, made, move]
    exact .inl (.refl c)
  | giveUp =>
    simp only [resolve, made, move]
    exact .refl c
  | wait since =>
    have loading : c.state? id = some .loading := by
      rw [state?_of_block? made, (Slot.look_eq_wait_iff.mp move).1]
    simp only [resolve, made, move]
    exact settled_waitInVain ⟨id, loading⟩ b.key
  | claim =>
    have empty : c.state? id = some .empty := by
      rw [state?_of_block? made, (Slot.look_eq_claim_iff.mp move).1]
    obtain ⟨events, same, found⟩ := prepare_supported (c.modifySlot id Slot.claimed) b.key
    rcases prepared : (c.modifySlot id Slot.claimed).prepare b.key with ⟨d, _ | script⟩
    · rw [prepared] at same
      rw [resolve_without made move depth prepared, show d = _ from same]
      exact Unchanged.abandon (.recordAll _ events) empty
    · rw [prepared] at same found
      obtain ⟨alive, l, asked, s, rfl⟩ := found script rfl
      obtain ⟨member, supported⟩ := List.mem_filter.mp asked
      have listed : ∀ j ∈ c.order, 0 < (c.modifySlot id Slot.claimed).refsAt j := by
        intro j member
        rw [refsAt_modifySlot]
        exact plain.listed alive j member
      have unchanged : (c.modifySlot id Slot.claimed).Unchanged d := by
        rw [show d = _ from same]
        exact .recordAll _ events
      have before := (Taken.refl (c.modifySlot id Slot.claimed)).then_unchanged unchanged
      rw [resolve_with made move depth prepared]
      refine settled_settle empty (undone_runScript ?_ before listed alive) b.key
      exact plain.only l member s ((c.modifySlot id Slot.claimed).context b.key) supported

theorem settles_fetch : Settles fetch := by
  intro c
  have positive : c.depthBound = c.depthBound - 1 + 1 := by
    unfold depthBound
    omega
  unfold fetch
  rw [positive]
  exact settles_resolve _ c

/-! ## Calls -/

theorem typed_ne_stuck {p : PayloadId} : c.typed h p ≠ .error .stuck := by
  unfold typed
  split
  · split <;> simp
  · simp

section

variable {resolve : Resolver} (settles : Settles resolve) (plain : c.Plain)

include settles plain

/-- Getting a resource may fail, and then it changes nothing. -/
theorem undoes_getWith (refers : h.block = some id) (made : c.block? id = some b)
    (kind : b.key.kind = h.kind) (failed : (getWith resolve c h).2 = .error failure) :
    Undoes c (getWith resolve c h).1 failure := by
  have settled := settles c id b plain made
  unfold getWith at failed ⊢
  simp only [refers] at failed ⊢
  rcases resolved : resolve c id with ⟨d, failure' | p⟩
  · rw [resolved] at settled failed
    obtain rfl : failure' = failure := Except.error.inj failed
    exact settled
  · rw [resolved] at settled failed
    rcases settled with unchanged | ⟨payload, there, made_kind⟩
    · cases failure with
      | error cause => exact unchanged
      | panic message => exact unchanged
      | stuck => exact absurd failed typed_ne_stuck
    · -- What a loader has made is what the handle asks for.
      have fits : payload.kind = h.kind := made_kind.trans kind
      dsimp only at there failed
      simp [typed, there, fits] at failed

/-- Loading a resource may fail, and then it changes nothing: its handle is given back. -/
theorem undoes_loadWith (alive : c.open_ = true) (key : Key)
    (failed : (loadWith resolve c key).2 = .error failure) :
    Undoes c (loadWith resolve c key).1 failure := by
  have listed := plain.listed alive
  have taken := (Taken.refl c).lazy listed key
  have loaders := (Calm.lazy c key).loaders
  have kind : (c.lazy key).2.kind = key.kind := rfl
  have idle := @Busy.of_lazy c key
  obtain ⟨id, refers, asked_key⟩ := key?_lazy c key
  unfold loadWith at failed ⊢
  rcases asked : c.lazy key with ⟨d, h⟩
  rw [asked] at taken loaders kind refers asked_key idle failed
  obtain ⟨b, made, same⟩ := key?_eq_some_iff.mp asked_key
  have plain' : d.Plain := by
    refine ⟨?_, fun _ id member => taken.refs_of_listed listed member⟩
    rw [show d.loaders = c.loaders from loaders]
    exact plain.only
  have same_kind : b.key.kind = h.kind := by rw [same, kind]
  have back (e : Cache) (unchanged : d.Unchanged e) : c.Unchanged (e.release h) :=
    (taken.then_unchanged unchanged).releaseAll listed alive
  dsimp only at failed ⊢
  rcases got : getWith resolve d h with ⟨e, failure' | r⟩
  · have stopped : (getWith resolve d h).2 = .error failure' := by rw [got]
    have undoes := undoes_getWith settles plain' refers made same_kind stopped
    rw [got] at undoes failed
    cases failure' with
    | stuck =>
      obtain rfl : Failure.stuck = failure := Except.error.inj failed
      exact idle undoes
    | error cause =>
      obtain rfl : Failure.error cause = failure := Except.error.inj failed
      exact back e undoes
    | panic message =>
      obtain rfl : Failure.panic message = failure := Except.error.inj failed
      exact back e undoes
  · rw [got] at failed
    contradiction

end

theorem undoes_ensure (plain : c.Plain) (refers : h.block = some id) (made : c.block? id = some b)
    (failed : (c.ensure h).2 = .error failure) : Undoes c (c.ensure h).1 failure := by
  have settled := settles_fetch c id b plain made
  unfold ensure at failed ⊢
  simp only [refers] at failed ⊢
  rcases resolved : c.fetch id with ⟨d, failure' | p⟩
  · rw [resolved] at settled failed
    obtain rfl : failure' = failure := Except.error.inj failed
    exact settled
  · rw [resolved] at failed
    contradiction

/-- With the loaders of pictures and of maps, in whatever state the cache may be and whatever its
source has: where loading a key fails, or getting the resource of a handle, or seeing to it that it
is loaded, the cache holds afterwards what it held before. -/
theorem undoes_of_failed {source : Source} {waitLimit : Option Duration} {out : List Handle}
    {kept : List PayloadId} (run : Pool.Run (Pool.start source waitLimit) ⟨c, out, kept, none⟩)
    (builtin : ∀ l ∈ c.loaders, l = Loader.png ∨ l = Loader.tileMap) (failure : Failure) :
    (c.open_ = true → ∀ key, (c.load key).2 = .error failure → Undoes c (c.load key).1 failure) ∧
      ∀ h ∈ (⟨c, out, kept, none⟩ : Pool).live,
        ((c.get h).2 = .error failure → Undoes c (c.get h).1 failure) ∧
        ((c.ensure h).2 = .error failure → Undoes c (c.ensure h).1 failure) := by
  have sound := (Pool.Sound.start source waitLimit).run run
  have plain : c.Plain := by
    refine ⟨fun l member => Loader.onlyTakes_of_builtin (builtin l member), ?_⟩
    intro alive id member
    exact ((sound.listed alive id).mp member).resolve_right nofun
  refine ⟨?_, ?_⟩
  · intro alive key failed
    exact undoes_loadWith settles_fetch plain alive key failed
  · intro h live
    cases refers : h.block with
    | none =>
      have got : c.get h = (c, .error (.error .nullHandle)) := by
        simp only [get, getWith, refers]
      have ensured : c.ensure h = (c, .error (.error .nullHandle)) := by
        simp only [ensure, refers]
      rw [got, ensured]
      refine ⟨fun failed => ?_, fun failed => ?_⟩
      · obtain rfl := Except.error.inj failed
        exact Unchanged.refl c
      · obtain rfl := Except.error.inj failed
        exact Unchanged.refl c
    | some id =>
      obtain ⟨b, made, -⟩ := made_of_refsAt (sound.refsAt_pos live refers)
      have kind : b.key.kind = h.kind := by
        have kinds := sound.kinds h live id refers
        rw [key?, show c.block? id = some b from made] at kinds
        exact Option.some.inj kinds
      exact ⟨undoes_getWith settles_fetch plain refers made kind,
        undoes_ensure plain refers made⟩

/-- A map uses a number that its tile set does not know. By then the image of the tile set has been
asked for; its entry is gone again. -/
theorem undoes_of_failed_unknown_tile :
    let text :=
      "\x7b\"width\":2,\"height\":1,\"layers\":[\x7b\"width\":2,\"height\":1,\"data\":[0,9]\x7d]," ++
      "\"tilesets\":[\x7b\"image\":\"t\",\"tilecount\":3,\"tilewidth\":8,\"tileheight\":8\x7d]\x7d"
    let source : Source := .table [("m", (Text.encode text).toArray)]
    let c := ((new source none).addLoader Loader.png).addLoader Loader.tileMap
    let failed := c.load ⟨"m", .tileMap⟩
    failed.2 = .error (.error (.loadFailed ⟨"m", .tileMap⟩)) ∧
      Event.created ⟨"t", .bitmap⟩ ∈ failed.1.log ∧ c.Unchanged failed.1 := by
  have run (source : Source) : Pool.Run (Pool.start source none)
      ⟨((new source none).addLoader Loader.png).addLoader Loader.tileMap, [], [], none⟩ :=
    (Relation.ReflTransGen.single (Pool.step_addLoader _ Loader.png)).tail
      (Pool.step_addLoader _ Loader.tileMap)
  have builtin (source : Source) :
      ∀ l ∈ (((new source none).addLoader Loader.png).addLoader Loader.tileMap).loaders,
        l = Loader.png ∨ l = Loader.tileMap := by
    simp [addLoader, record, new]
  -- The load is evaluated once, for what it answers and for what it has asked for.
  refine and_assoc.mp ⟨?evaluated,
    (undoes_of_failed (run _) (builtin _) (.error _)).1 rfl ⟨"m", .tileMap⟩ (And.left ?evaluated)⟩
  decide +kernel

end Cache

end TileEngine
