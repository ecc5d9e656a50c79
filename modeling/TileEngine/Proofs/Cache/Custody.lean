import TileEngine.Proofs.Cache.History

/-!
Custody of entries. However callers interleave, a live cache lists exactly the
entries with live handles, each under a key of its own and with the right count;
an entry leaves the list once; and a request after that gets a new entry.
-/

namespace TileEngine

namespace Pool

/-- No handle to a key is live. -/
def Unreferenced (s : Pool) (key : Key) : Prop :=
  ∀ h ∈ s.live, ¬(s.cache.name? h = some key.name ∧ h.kind = key.kind)

/-- The state of the books of a live cache. -/
structure Custody (s : Pool) : Prop where
  /-- No two cached entries have one key. -/
  distinct : s.cache.order.Pairwise fun i j => s.cache.key? i ≠ s.cache.key? j
  /-- An entry is cached while a handle to it is live, and while the caller that gave
  the last one back is about to take it off the list, under the lock. -/
  cached : ∀ id, id ∈ s.cache.order ↔
    (∃ h ∈ s.live, h.block = some id) ∨ s.leaving = some id
  /-- The count of an entry is the number of live handles to it. -/
  counted : ∀ id b, s.cache.block? id = some b → b.refs = s.live.countP (·.block = some id)
  /-- No entry was missing when it was to be taken off the list. -/
  found : ∀ key, .lost key ∉ s.cache.log
  /-- Live handles that are not null refer to one entry when name and kind agree. -/
  same : ∀ h ∈ s.live, ∀ k ∈ s.live, h.isNull = false → k.isNull = false →
    (h.block = k.block ↔ s.cache.name? h = s.cache.name? k ∧ h.kind = k.kind)
  /-- An entry that has left never comes back, and never leaves again. -/
  once : ∀ t, Run s t → t.cache.open_ = true → ∀ id < s.cache.blocks.size,
    id ∉ s.cache.order → id ∉ t.cache.order ∧ t.leaving ≠ some id
  /-- A request for a key without live handles makes a new and empty entry, into which
  no payload comes that was there before. -/
  anew : s.leaving = none → ∀ key, s.Unreferenced key →
    (s.cache.lazy key).2 = ⟨key.kind, some s.cache.blocks.size⟩ ∧
      (s.cache.lazy key).1.block? s.cache.blocks.size = some ⟨key, 1, Slot.fresh⟩ ∧
      ∀ t, Run { s with cache := (s.cache.lazy key).1, out := (s.cache.lazy key).2 :: s.out } t →
        ∀ p, t.cache.loaded? s.cache.blocks.size = some p → s.cache.cells.size ≤ p
  /-- A value for such a key is what the new entry has. -/
  placed : s.leaving = none → ∀ name payload, s.Unreferenced ⟨name, payload.kind⟩ →
    (s.cache.place name payload).2 = (⟨payload.kind, some s.cache.blocks.size⟩, none) ∧
      (s.cache.place name payload).1.loaded? s.cache.blocks.size = some s.cache.cells.size

namespace Sound

variable {s : Pool}

theorem mem_order_iff (sound : Sound s) (alive : s.cache.open_ = true) (id : BlockId) :
    id ∈ s.cache.order ↔ (∃ h ∈ s.live, h.block = some id) ∨ s.leaving = some id := by
  rw [sound.listed alive id]
  refine or_congr_left ⟨sound.exists_live, ?_⟩
  rintro ⟨h, live, refers⟩
  exact sound.refsAt_pos live refers

theorem key?_of_live (sound : Sound s) {h : Handle} (live : h ∈ s.live) {id : BlockId}
    (refers : h.block = some id) :
    ∃ name, s.cache.name? h = some name ∧ s.cache.key? id = some ⟨name, h.kind⟩ := by
  obtain ⟨b, found, -⟩ := Cache.made_of_refsAt (sound.refsAt_pos live refers)
  have kind := sound.kinds h live id refers
  rw [Cache.key?, found] at kind ⊢
  refine ⟨b.key.name, ?_, ?_⟩
  · rw [Cache.name?, Cache.entry?, refers, Option.bind_some, found]
    rfl
  · rw [← Option.some.inj kind]
    rfl

theorem same_entry (sound : Sound s) (alive : s.cache.open_ = true) {h k : Handle}
    (hl : h ∈ s.live) (kl : k ∈ s.live) (hn : h.isNull = false) (kn : k.isNull = false) :
    h.block = k.block ↔ s.cache.name? h = s.cache.name? k ∧ h.kind = k.kind := by
  obtain ⟨i, hi⟩ := Option.isSome_iff_exists.mp (by simpa [Handle.isNull] using hn)
  obtain ⟨j, hj⟩ := Option.isSome_iff_exists.mp (by simpa [Handle.isNull] using kn)
  obtain ⟨name, hname, hkey⟩ := sound.key?_of_live hl hi
  obtain ⟨other, kname, kkey⟩ := sound.key?_of_live kl hj
  rw [hi, hj, hname, kname]
  constructor
  · intro same
    rw [Option.some.inj same, kkey, Option.some.injEq, Key.mk.injEq] at hkey
    exact ⟨congrArg some hkey.1.symm, hkey.2.symm⟩
  · rintro ⟨names, kinds⟩
    have listed_i := (sound.mem_order_iff alive i).mpr (.inl ⟨h, hl, hi⟩)
    have listed_j := (sound.mem_order_iff alive j).mpr (.inl ⟨k, kl, hj⟩)
    refine congrArg some (sound.distinct i listed_i j listed_j ?_)
    rw [hkey, kkey, Option.some.inj names, kinds]

/-- A key without live handles is not found, unless its entry is about to leave. -/
theorem find?_of_unreferenced (sound : Sound s) (alive : s.cache.open_ = true)
    (stays : s.leaving = none) {key : Key} (unreferenced : s.Unreferenced key) :
    s.cache.find? key = none := by
  rw [Option.eq_none_iff_forall_ne_some]
  intro id found
  obtain ⟨listed, has⟩ := Cache.find?_eq_some found
  rcases (sound.mem_order_iff alive id).mp listed with ⟨h, live, refers⟩ | gone
  · obtain ⟨name, named, key?⟩ := sound.key?_of_live live refers
    rw [key?, Option.some.injEq] at has
    refine unreferenced h live ⟨?_, ?_⟩
    · rw [named, ← has]
    · rw [← has]
  · rw [stays] at gone
    contradiction

theorem never_back (sound : Sound s) {t : Pool} (later : Run s t) (opened : t.cache.open_ = true)
    {id : BlockId} (made : id < s.cache.blocks.size) (gone : id ∉ s.cache.order) :
    id ∉ t.cache.order ∧ t.leaving ≠ some id := by
  have absent := (Run.later later).gone id made gone
  refine ⟨absent, ?_⟩
  intro leaving
  exact absent (((sound.run later).mem_order_iff opened id).mpr (.inr leaving))

theorem lazy_anew (sound : Sound s) (alive : s.cache.open_ = true) (stays : s.leaving = none)
    {key : Key} (unreferenced : s.Unreferenced key) :
    s.cache.lazy key = ((s.cache.insert key Slot.fresh).1, ⟨key.kind, some s.cache.blocks.size⟩) := by
  rw [Cache.lazy, Cache.acquire, sound.find?_of_unreferenced alive stays unreferenced]
  rfl

theorem place_anew (sound : Sound s) (alive : s.cache.open_ = true) (stays : s.leaving = none)
    {name : String} {payload : Payload} (unreferenced : s.Unreferenced ⟨name, payload.kind⟩) :
    s.cache.place name payload =
      (((s.cache.store payload).1.insert ⟨name, payload.kind⟩ (Slot.preset s.cache.cells.size)).1,
        ⟨payload.kind, some s.cache.blocks.size⟩, none) := by
  have absent : (s.cache.store payload).1.find? ⟨name, payload.kind⟩ = none :=
    sound.find?_of_unreferenced alive stays unreferenced
  unfold Cache.place
  dsimp only
  rw [absent]
  rfl

end Sound

/-- Whatever callers do, in whatever order, the books of a live cache are right. -/
theorem custody_of_run {source : Source} {waitLimit : Option Duration} {s : Pool}
    (run : Run (start source waitLimit) s) (alive : s.cache.open_ = true) : Custody s := by
  have sound := (Sound.start source waitLimit).run run
  refine ⟨?_, sound.mem_order_iff alive, ?_, sound.quiet, ?_, ?_, ?_, ?_⟩
  · refine List.Pairwise.imp_of_mem ?_ sound.nodup
    intro i j hi hj different same
    exact different (sound.distinct i hi j hj same)
  · intro id b found
    rw [← sound.counted id, Cache.refsAt, found]
    rfl
  · intro h hl k kl hn kn
    exact sound.same_entry alive hl kl hn kn
  · intro t later opened id made gone
    exact sound.never_back later opened made gone
  · intro stays key unreferenced
    rw [sound.lazy_anew alive stays unreferenced]
    refine ⟨rfl, ?_, ?_⟩
    · rw [Cache.block?_insert, if_pos rfl]
    · intro t later p loaded
      refine ((Run.later later).fresh _ p loaded).resolve_left ?_
      dsimp only
      rw [Cache.loaded?_insert, if_pos rfl]
      intro filled
      contradiction
  · intro stays name payload unreferenced
    rw [sound.place_anew alive stays unreferenced]
    refine ⟨rfl, ?_⟩
    rw [Cache.loaded?_insert]
    exact if_pos rfl

/-- A note that links to another one goes away, and the other one with it: the next
request for that makes a third entry. -/
theorem custody_of_run_linked_notes :
    let a : Handle := ⟨.note, some 0⟩
    let asked := ((Cache.new (.table []) none).lazy ⟨"a", .note⟩).1
    let linked := (asked.place "b" (.note "see a" [a])).1
    let destroyed := (((linked.lower 1).dismiss 1).1.dropHolder 0).1
    let c := ((destroyed.lower 0).dismiss 0).1
    Run (start (.table []) none) ⟨c, [], [], none⟩ ∧ c.open_ = true ∧ c.order = [] ∧
      (c.lazy ⟨"a", .note⟩).2 = ⟨.note, some 2⟩ := by
  intro a asked linked destroyed c
  let b : Handle := ⟨.note, some 1⟩
  have request : Step (start (.table []) none) ⟨asked, [a], [], none⟩ :=
    .request ⟨"a", .note⟩ rfl
  have place : Step ⟨asked, [a], [], none⟩ ⟨linked, [b], [], none⟩ := by
    have given : (asked.place "b" (.note "see a" [a])).2 = (b, none) := by decide +kernel
    have step := @Step.place asked [a] [] "b" (.note "see a" [a]) rfl (List.Subperm.refl _)
    rw [given] at step
    exact step
  have lower : Step ⟨linked, [b], [], none⟩ ⟨linked.lower 1, [], [], some 1⟩ := by
    have last : linked.refsAt 1 ≤ 1 := by decide +kernel
    have step := @Step.lower linked [b] [] b 1 (List.mem_singleton.mpr rfl) rfl
    rw [if_pos last] at step
    exact step
  have dismiss : Step ⟨linked.lower 1, [], [], some 1⟩
      ⟨((linked.lower 1).dismiss 1).1, [], [0], none⟩ := by
    have payload : ((linked.lower 1).dismiss 1).2 = some 0 := by decide +kernel
    have step := @Step.dismiss (linked.lower 1) [] [] 1
    rw [payload] at step
    exact step
  have unhold : Step ⟨((linked.lower 1).dismiss 1).1, [], [0], none⟩
      ⟨destroyed, [a], [], none⟩ := by
    have links : (((linked.lower 1).dismiss 1).1.dropHolder 0).2 = [a] := by decide +kernel
    have step := @Step.unhold ⟨((linked.lower 1).dismiss 1).1, [], [0], none⟩ 0
      (List.mem_singleton.mpr rfl)
    dsimp only at step
    rw [links] at step
    exact step
  have lower' : Step ⟨destroyed, [a], [], none⟩ ⟨destroyed.lower 0, [], [], some 0⟩ := by
    have last : destroyed.refsAt 0 ≤ 1 := by decide +kernel
    have step := @Step.lower destroyed [a] [] a 0 (List.mem_singleton.mpr rfl) rfl
    rw [if_pos last] at step
    exact step
  have dismiss' : Step ⟨destroyed.lower 0, [], [], some 0⟩ ⟨c, [], [], none⟩ := by
    have payload : ((destroyed.lower 0).dismiss 0).2 = none := by decide +kernel
    have step := @Step.dismiss (destroyed.lower 0) [] [] 0
    rw [payload] at step
    exact step
  have run : Run (start (.table []) none) ⟨c, [], [], none⟩ :=
    ((((((Relation.ReflTransGen.single request).tail place).tail lower).tail dismiss).tail
      unhold).tail lower').tail dismiss'
  have alive : c.open_ = true := by decide +kernel
  have nothing_live : Pool.live ⟨c, [], [], none⟩ = [] := by decide +kernel
  have two_entries : c.blocks.size = 2 := by decide +kernel
  clear_value c
  have books := custody_of_run run alive
  refine ⟨run, alive, ?_, ?_⟩
  · refine List.eq_nil_iff_forall_not_mem.mpr ?_
    intro id listed
    rcases (books.cached id).mp listed with ⟨h, member, -⟩ | gone
    · rw [nothing_live] at member
      exact List.not_mem_nil member
    · exact Option.some_ne_none id gone.symm
  · have unreferenced : Unreferenced ⟨c, [], [], none⟩ ⟨"a", .note⟩ := by
      intro h member
      rw [nothing_live] at member
      exact absurd member List.not_mem_nil
    rw [(books.anew rfl _ unreferenced).1, two_entries]

end Pool

end TileEngine
