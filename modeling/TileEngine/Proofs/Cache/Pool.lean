import TileEngine.Proofs.Cache.Entries
import Mathlib.Logic.Relation

/-!
All callers of one cache at once. A pool is the cache, the handles that live
outside payloads (those of callers, of decoders that are under way, of payloads
that are being destroyed) and the payloads that are held outside entries. A step
is one effect of one caller on what callers share, and any caller may make the
next step; so a run of steps is any interleaving of any number of callers.

Giving back the last handle of an entry has two effects, both under the lock of
the cache: the count falls to zero, and the entry leaves the list. Between them
the entry is `leaving`; operations that need the lock are out of the question
then, and those that do not need it go on.
-/

namespace TileEngine

open scoped List

/-- A cache, and what refers to it from outside. -/
structure Pool where
  cache : Cache
  /-- The handles outside payloads. -/
  out : List Handle
  /-- The payloads that are held outside entries, once for each holder. -/
  kept : List PayloadId
  /-- The entry that is about to leave the list, while the lock is taken for that. -/
  leaving : Option BlockId

namespace Pool

/-- All handles there are: those outside payloads and those inside. -/
def live (s : Pool) : List Handle := s.out ++ s.cache.bound

/-- All payloads that are held, once for each holder. -/
def holdings (s : Pool) : List PayloadId :=
  s.kept ++ (s.leaving.bind s.cache.loaded?).toList ++ s.cache.owned

/-- The pool of a new cache. -/
def start (source : Source) (waitLimit : Option Duration) : Pool :=
  ⟨Cache.new source waitLimit, [], [], none⟩

/-- One effect of one caller. Where a step uses a handle that it does not give away,
the handle is live: a caller that clones or dereferences a handle has borrowed it. -/
inductive Step : Pool → Pool → Prop
  /-- A handle to a key is asked for; nothing is loaded. -/
  | request {c : Cache} {out : List Handle} {kept : List PayloadId} (key : Key)
      (alive : c.open_ = true) :
      Step ⟨c, out, kept, none⟩ ⟨(c.lazy key).1, (c.lazy key).2 :: out, kept, none⟩
  /-- A value, with handles that belonged to a caller, is cached under a name. -/
  | place {c : Cache} {out : List Handle} {kept : List PayloadId} (name : String)
      (payload : Payload) (alive : c.open_ = true) (own : payload.handles <+~ out) :
      Step ⟨c, out, kept, none⟩
        ⟨(c.place name payload).1, (c.place name payload).2.1 :: out.diff payload.handles,
          (c.place name payload).2.2.toList ++ kept, none⟩
  /-- A handle is cloned. The count is raised without the lock. -/
  | clone {s : Pool} (h : Handle) (live : h ∈ s.live) :
      Step s { s with cache := s.cache.retain h, out := h :: s.out }
  /-- A null handle appears, as where another handle is taken from its place. -/
  | null {s : Pool} (kind : Kind) : Step s { s with out := Handle.null kind :: s.out }
  /-- A null handle is dropped. -/
  | dropNull {s : Pool} (h : Handle) (mine : h ∈ s.out) (null : h.block = none) :
      Step s { s with out := s.out.erase h }
  /-- A handle is dropped: the count falls. At zero the entry is about to leave. -/
  | lower {c : Cache} {out : List Handle} {kept : List PayloadId} (h : Handle) (id : BlockId)
      (mine : h ∈ out) (refers : h.block = some id) :
      Step ⟨c, out, kept, none⟩
        ⟨c.lower id, out.erase h, kept, if c.refsAt id ≤ 1 then some id else none⟩
  /-- The entry leaves the list, and its payload is in the hands of the caller. -/
  | dismiss {c : Cache} {out : List Handle} {kept : List PayloadId} (id : BlockId) :
      Step ⟨c, out, kept, some id⟩
        ⟨(c.dismiss id).1, out, (c.dismiss id).2.toList ++ kept, none⟩
  /-- A holder gives a payload up. The handles of a payload that is destroyed are
  dropped by its destructor, one by one. -/
  | unhold {s : Pool} (p : PayloadId) (mine : p ∈ s.kept) :
      Step s
        { s with
          cache := (s.cache.dropHolder p).1
          out := (s.cache.dropHolder p).2 ++ s.out
          kept := s.kept.erase p }
  /-- The payload of a loaded entry gets a holder outside. -/
  | hold {s : Pool} (h : Handle) (id : BlockId) (p : PayloadId) (live : h ∈ s.live)
      (refers : h.block = some id) (loaded : s.cache.loaded? id = some p) :
      Step s { s with cache := s.cache.hold p, kept := p :: s.kept }
  /-- A caller finds an entry empty and becomes the one that loads it. -/
  | claim {s : Pool} (h : Handle) (id : BlockId) (b : Block) (waiting : Option Nat)
      (live : h ∈ s.live) (refers : h.block = some id) (found : s.cache.block? id = some b)
      (claims : b.slot.look waiting = .claim) :
      Step s { s with cache := s.cache.modifySlot id Slot.claimed }
  /-- A load ends with a payload, to which handles of the decoder go. -/
  | fill {s : Pool} (h : Handle) (id : BlockId) (b : Block) (payload : Payload)
      (live : h ∈ (s.out.diff payload.handles) ++ s.cache.bound) (refers : h.block = some id)
      (found : s.cache.block? id = some b) (loading : b.slot.state = .loading)
      (own : payload.handles <+~ s.out) :
      Step s
        { s with cache := (s.cache.fill id payload).1, out := s.out.diff payload.handles }
  /-- A load ends without a payload. -/
  | abandon {s : Pool} (h : Handle) (id : BlockId) (b : Block) (live : h ∈ s.live)
      (refers : h.block = some id) (found : s.cache.block? id = some b)
      (loading : b.slot.state = .loading) :
      Step s { s with cache := s.cache.abandon id }
  /-- The cache itself goes away. -/
  | close {c : Cache} {out : List Handle} {kept : List PayloadId} :
      Step ⟨c, out, kept, none⟩ ⟨c.close, out, kept, none⟩
  /-- Something that concerns neither entries nor payloads: a message, a new loader. -/
  | aside {s : Pool} (c : Cache) (blocks : c.blocks = s.cache.blocks)
      (order : c.order = s.cache.order) (cells : c.cells = s.cache.cells)
      (alive : c.open_ = s.cache.open_)
      (quiet : ∀ key, .lost key ∈ c.log → .lost key ∈ s.cache.log) :
      Step s { s with cache := c }

/-- Any number of steps. -/
abbrev Run : Pool → Pool → Prop := Relation.ReflTransGen Step

theorem step_addLoader (s : Pool) (loader : Loader) :
    Step s { s with cache := s.cache.addLoader loader } := by
  refine .aside _ rfl rfl rfl rfl ?_
  intro key lost
  simpa [Cache.addLoader, Cache.record] using lost

/-- What holds at all times. -/
structure Sound (s : Pool) : Prop where
  /-- A count is the number of handles there are. -/
  counted : ∀ id, s.cache.refsAt id = s.live.countP (·.block = some id)
  /-- A handle is of the kind that its entry was asked for. -/
  kinds : ∀ h ∈ s.live, ∀ id, h.block = some id →
    (s.cache.key? id).map Key.kind = some h.kind
  /-- An open cache lists the entries with references, and the one that is leaving. -/
  listed : s.cache.open_ = true → ∀ id,
    id ∈ s.cache.order ↔ 0 < s.cache.refsAt id ∨ s.leaving = some id
  /-- No reference is left to the entry that is leaving. -/
  left : ∀ id, s.leaving = some id → id < s.cache.blocks.size ∧ s.cache.refsAt id = 0
  nodup : s.cache.order.Nodup
  /-- No two cached entries have one key. -/
  distinct : ∀ i ∈ s.cache.order, ∀ j ∈ s.cache.order, s.cache.key? i = s.cache.key? j → i = j
  /-- A payload has as many holders as it counts. -/
  holders : ∀ p, s.cache.holdersAt p = s.holdings.count p
  /-- No entry was missing where it was to leave the list. -/
  quiet : ∀ key, .lost key ∉ s.cache.log

namespace Sound

variable {s : Pool} {c : Cache} {out : List Handle} {kept : List PayloadId}
  {leaving : Option BlockId}

theorem start (source : Source) (waitLimit : Option Duration) :
    Sound (Pool.start source waitLimit) := by
  constructor <;> simp [Pool.start, Cache.new, live, holdings, Cache.bound, Cache.owned, Cache.refsAt,
    Cache.block?, Cache.holdersAt]

theorem refsAt_pos (sound : Sound s) {h : Handle} {id : BlockId} (live : h ∈ s.live)
    (refers : h.block = some id) : 0 < s.cache.refsAt id := by
  rw [sound.counted id, List.countP_pos_iff]
  exact ⟨h, live, by simpa using refers⟩

theorem exists_live (sound : Sound s) {id : BlockId} (pos : 0 < s.cache.refsAt id) :
    ∃ h ∈ s.live, h.block = some id := by
  rw [sound.counted id, List.countP_pos_iff] at pos
  simpa using pos

/-- Null handles may come and go, other handles change places, and counts of holders
change with the holders. -/
theorem of_live (sound : Sound s) {t : Pool} (blocks : t.cache.blocks = s.cache.blocks)
    (order : t.cache.order = s.cache.order) (alive : t.cache.open_ = s.cache.open_)
    (leaving : t.leaving = s.leaving)
    (counts : ∀ id, t.live.countP (·.block = some id) = s.live.countP (·.block = some id))
    (members : ∀ h ∈ t.live, ∀ id, h.block = some id → h ∈ s.live)
    (holders : ∀ p, t.cache.holdersAt p = t.holdings.count p)
    (quiet : ∀ key, .lost key ∈ t.cache.log → .lost key ∈ s.cache.log) : Sound t := by
  have same_block : t.cache.block? = s.cache.block? := by
    funext id
    rw [Cache.block?, Cache.block?, blocks]
  have same_refs : t.cache.refsAt = s.cache.refsAt := by
    funext id
    rw [Cache.refsAt, Cache.refsAt, same_block]
  have same_key : t.cache.key? = s.cache.key? := by
    funext id
    rw [Cache.key?, Cache.key?, same_block]
  refine ⟨?_, ?_, ?_, ?_, ?_, ?_, holders, ?_⟩
  · intro id
    rw [same_refs, counts]
    exact sound.counted id
  · intro h member id refers
    rw [same_key]
    exact sound.kinds h (members h member id refers) id refers
  · intro opened id
    rw [order, same_refs, leaving]
    exact sound.listed (alive ▸ opened) id
  · intro id gone
    rw [blocks, same_refs]
    exact sound.left id (leaving ▸ gone)
  · rw [order]
    exact sound.nodup
  · intro i hi j hj same
    rw [order] at hi hj
    rw [same_key] at same
    exact sound.distinct i hi j hj same
  · intro key lost
    exact sound.quiet key (quiet key lost)

theorem of_perm (sound : Sound s) {t : Pool} (blocks : t.cache.blocks = s.cache.blocks)
    (order : t.cache.order = s.cache.order) (alive : t.cache.open_ = s.cache.open_)
    (leaving : t.leaving = s.leaving) (live : t.live ~ s.live)
    (holders : ∀ p, t.cache.holdersAt p = t.holdings.count p)
    (quiet : ∀ key, .lost key ∈ t.cache.log → .lost key ∈ s.cache.log) : Sound t :=
  sound.of_live blocks order alive leaving (fun _ => live.countP_eq _)
    (fun _ member _ _ => live.mem_iff.mp member) holders quiet

/-- A value is made of handles that belonged to a caller, and is held by the caller. -/
theorem store (sound : Sound ⟨c, out, kept, leaving⟩) {payload : Payload}
    (own : payload.handles <+~ out) :
    Sound ⟨(c.store payload).1, out.diff payload.handles, c.cells.size :: kept, leaving⟩ := by
  refine sound.of_perm rfl rfl rfl rfl ?_ ?_ (fun _ lost => lost)
  · have parts : payload.handles ++ out.diff payload.handles ~ out :=
      List.subperm_append_diff_self_of_count_le (List.subperm_ext_iff.mp own)
    change out.diff payload.handles ++ (c.store payload).1.bound ~ out ++ c.bound
    rw [Cache.bound_store]
    calc out.diff payload.handles ++ (c.bound ++ payload.handles)
      _ ~ out.diff payload.handles ++ (payload.handles ++ c.bound) :=
        List.perm_append_comm.append_left _
      _ ~ payload.handles ++ out.diff payload.handles ++ c.bound := by
        rw [← List.append_assoc]
        exact List.perm_append_comm.append_right _
      _ ~ out ++ c.bound := parts.append_right _
  · intro p
    have before := sound.holders p
    change (c.store payload).1.holdersAt p =
      (c.cells.size :: Pool.holdings ⟨c, out, kept, leaving⟩).count p
    rw [Cache.holdersAt_store, List.count_cons, ← before]
    by_cases new : p = c.cells.size
    · rw [new, if_pos rfl, Cache.holdersAt_of_size_le (Nat.le_refl _)]
      simp
    · rw [if_neg new, if_neg (by simpa using Ne.symm new)]
      rfl

/-- An entry that is referred to gets one more reference. -/
theorem retain (sound : Sound ⟨c, out, kept, leaving⟩) {id : BlockId} {kind : Kind}
    (pos : 0 < c.refsAt id) (same_kind : (c.key? id).map Key.kind = some kind) :
    Sound ⟨c.retainBlock id, ⟨kind, some id⟩ :: out, kept, leaving⟩ := by
  obtain ⟨b, found, refs⟩ := Cache.made_of_refsAt pos
  have made := Cache.block?_lt found
  have refsAt := Cache.refsAt_retainBlock made
  refine ⟨?_, ?_, ?_, ?_, sound.nodup, ?_, ?_, sound.quiet⟩
  · intro j
    have before := sound.counted j
    change (c.retainBlock id).refsAt j =
      List.countP _ (⟨kind, some id⟩ :: Pool.live ⟨c, out, kept, leaving⟩)
    rw [refsAt, List.countP_cons, ← before]
    by_cases same : j = id
    · simp [same]
    · simp [same, Ne.symm same]
  · intro h member j refers
    change (Cache.key? (c.retainBlock id) j).map Key.kind = some h.kind
    rw [Cache.key?_retainBlock]
    rcases List.mem_cons.mp member with rfl | old
    · rw [← Option.some.inj refers]
      exact same_kind
    · exact sound.kinds h old j refers
  · intro opened j
    refine (sound.listed opened j).trans (or_congr_left ?_)
    change 0 < c.refsAt j ↔ 0 < (c.retainBlock id).refsAt j
    rw [refsAt]
    split
    · rename_i same
      rw [same]
      omega
    · rfl
  · intro j gone
    obtain ⟨bound, zero⟩ := sound.left j gone
    refine ⟨by simpa [Cache.retainBlock, Cache.modifyBlock] using bound, ?_⟩
    change c.refsAt j = 0 at zero
    change (c.retainBlock id).refsAt j = 0
    rw [refsAt, if_neg (fun same => by rw [same] at zero; omega), zero]
  · intro i hi j hj same
    change Cache.key? (c.retainBlock id) i = Cache.key? (c.retainBlock id) j at same
    rw [Cache.key?_retainBlock, Cache.key?_retainBlock] at same
    exact sound.distinct i hi j hj same
  · intro p
    have held : Block.held { b with refs := b.refs + 1 } = b.held := by
      rw [Block.held, Block.held, if_neg (Nat.succ_ne_zero b.refs), if_neg (by omega)]
    obtain ⟨rest, before, after⟩ :=
      Cache.owned_modifyBlock found fun b => { b with refs := b.refs + 1 }
    rw [held] at after
    have same_owned : (c.retainBlock id).owned ~ c.owned := after.trans before.symm
    have same_loaded : (c.retainBlock id).loaded? = c.loaded? :=
      funext (Cache.loaded?_retainBlock c id)
    refine (sound.holders p).trans ?_
    simp only [holdings, List.count_append, same_loaded, same_owned.count_eq]

/-- An entry is made for a key that is not cached. A payload that the entry starts
with was held by the caller. -/
theorem insert {key : Key} {slot : Slot}
    (sound : Sound ⟨c, out, slot.payload?.toList ++ kept, none⟩) (opened : c.open_ = true)
    (absent : c.find? key = none) :
    Sound ⟨(c.insert key slot).1, ⟨key.kind, some c.blocks.size⟩ :: out, kept, none⟩ := by
  have refsAt := Cache.refsAt_insert c key slot
  have key? := Cache.key?_insert c key slot
  have fresh : c.refsAt c.blocks.size = 0 := Cache.refsAt_of_size_le (Nat.le_refl _)
  have order : (c.insert key slot).1.order = c.order ++ [c.blocks.size] := rfl
  have listed := sound.listed opened
  have bound : ∀ j ∈ c.order, j < c.blocks.size := by
    intro j hj
    rcases (listed j).mp hj with pos | gone
    · exact Cache.lt_size_of_refsAt pos
    · contradiction
  refine ⟨?_, ?_, ?_, ?_, ?_, ?_, ?_, ?_⟩
  · intro j
    have before := sound.counted j
    change (c.insert key slot).1.refsAt j =
      List.countP _ (⟨key.kind, some c.blocks.size⟩ ::
        Pool.live ⟨c, out, slot.payload?.toList ++ kept, none⟩)
    rw [refsAt, List.countP_cons, ← before]
    by_cases new : j = c.blocks.size
    · simp [new, fresh]
    · simp [new, Ne.symm new]
  · intro h member j refers
    change (Cache.key? (c.insert key slot).1 j).map Key.kind = some h.kind
    rw [key?]
    rcases List.mem_cons.mp member with rfl | old
    · rw [if_pos (Option.some.inj refers).symm]
      rfl
    · have pos := sound.refsAt_pos old refers
      rw [if_neg (Nat.ne_of_lt (Cache.lt_size_of_refsAt pos))]
      exact sound.kinds h old j refers
  · intro _ j
    change j ∈ (c.insert key slot).1.order ↔ 0 < (c.insert key slot).1.refsAt j ∨ none = some j
    rw [order, refsAt, List.mem_append, List.mem_singleton, listed j]
    by_cases new : j = c.blocks.size
    · simp [new]
    · simp [new]
  · intro j gone
    contradiction
  · change (c.insert key slot).1.order.Nodup
    rw [order]
    refine List.nodup_append.mpr ⟨sound.nodup, List.pairwise_singleton _ _, ?_⟩
    intro j hj new member
    rw [List.mem_singleton.mp member]
    exact Nat.ne_of_lt (bound j hj)
  · intro i hi j hj same
    change i ∈ (c.insert key slot).1.order at hi
    change j ∈ (c.insert key slot).1.order at hj
    change (c.insert key slot).1.key? i = (c.insert key slot).1.key? j at same
    rw [order, List.mem_append, List.mem_singleton] at hi hj
    rw [key?, key?] at same
    -- A listed entry with the new key would have been found.
    rcases hi with hi | rfl
    · rw [if_neg (Nat.ne_of_lt (bound i hi))] at same
      rcases hj with hj | rfl
      · rw [if_neg (Nat.ne_of_lt (bound j hj))] at same
        exact sound.distinct i hi j hj same
      · rw [if_pos rfl] at same
        exact absurd same (Cache.find?_eq_none absent hi)
    · rcases hj with hj | rfl
      · rw [if_pos rfl, if_neg (Nat.ne_of_lt (bound j hj))] at same
        exact absurd same.symm (Cache.find?_eq_none absent hj)
      · rfl
  · intro p
    refine (sound.holders p).trans ?_
    simp only [holdings, Cache.owned_insert, List.count_append]
    simp only [Option.bind_none, Option.toList_none, List.count_nil]
    omega
  · intro lost member
    refine sound.quiet lost ?_
    simpa [Cache.insert, Cache.record] using member

/-- The slot of an entry changes. A payload that comes into it was held by the
caller. -/
theorem modifySlot {f : Slot → Slot} {id : BlockId} {b : Block}
    (sound : Sound ⟨c, out, (f b.slot).payload?.toList ++ kept, leaving⟩)
    (pos : 0 < c.refsAt id) (found : c.block? id = some b) (unloaded : b.slot.payload? = none) :
    Sound ⟨c.modifySlot id f, out, kept, leaving⟩ := by
  have refsAt : (c.modifySlot id f).refsAt = c.refsAt := funext (Cache.refsAt_modifySlot c id f)
  have key? : (c.modifySlot id f).key? = c.key? := funext (Cache.key?_modifySlot c id f)
  have refs : b.refs ≠ 0 := by
    rw [Cache.refsAt, found] at pos
    exact Nat.ne_of_gt pos
  refine ⟨?_, ?_, ?_, ?_, sound.nodup, ?_, ?_, sound.quiet⟩
  · intro j
    refine Eq.trans ?_ (sound.counted j)
    exact congrFun refsAt j
  · intro h member j refers
    change ((c.modifySlot id f).key? j).map Key.kind = some h.kind
    rw [key?]
    exact sound.kinds h member j refers
  · intro opened j
    change j ∈ c.order ↔ 0 < (c.modifySlot id f).refsAt j ∨ leaving = some j
    rw [refsAt]
    exact sound.listed opened j
  · intro j gone
    obtain ⟨bound, zero⟩ := sound.left j gone
    refine ⟨by simpa [Cache.modifySlot, Cache.modifyBlock] using bound, ?_⟩
    exact (congrFun refsAt j).trans zero
  · intro i hi j hj same
    change (c.modifySlot id f).key? i = (c.modifySlot id f).key? j at same
    rw [key?] at same
    exact sound.distinct i hi j hj same
  · intro p
    obtain ⟨rest, before, after⟩ :=
      Cache.owned_modifyBlock found fun b => { b with slot := f b.slot }
    have empty : b.held = [] := by rw [Block.held, unloaded, Option.toList_none, ite_self]
    have filled : Block.held { b with slot := f b.slot } = (f b.slot).payload?.toList := by
      rw [Block.held, if_neg refs]
    rw [empty] at before
    rw [filled] at after
    have gone : leaving.bind (c.modifySlot id f).loaded? = leaving.bind c.loaded? := by
      cases leaving with
      | none => rfl
      | some j =>
        have other : j ≠ id := by
          rintro rfl
          exact Nat.ne_of_gt pos (sound.left j rfl).2
        exact (Cache.loaded?_modifySlot found f j).trans (if_neg other)
    refine (sound.holders p).trans ?_
    change List.count p ((f b.slot).payload?.toList ++ kept ++ (leaving.bind c.loaded?).toList ++
      c.owned) = List.count p (kept ++ (leaving.bind (c.modifySlot id f).loaded?).toList ++
        (c.modifyBlock id _).owned)
    rw [gone]
    simp only [List.count_append, before.count_eq, after.count_eq, List.count_nil]
    omega

/-- One handle less. An entry without handles is about to leave. -/
theorem lower (sound : Sound ⟨c, out, kept, none⟩) {h : Handle} {id : BlockId} (mine : h ∈ out)
    (refers : h.block = some id) :
    Sound ⟨c.lower id, out.erase h, kept, if c.refsAt id ≤ 1 then some id else none⟩ := by
  have refsAt := Cache.refsAt_lower c id
  have pos : 0 < c.refsAt id := sound.refsAt_pos (List.mem_append_left _ mine) refers
  obtain ⟨b, found, refs⟩ := Cache.made_of_refsAt pos
  have parts : Pool.live ⟨c, out, kept, none⟩ ~ h :: (out.erase h ++ c.bound) :=
    (List.perm_cons_erase mine).append_right _
  refine ⟨?_, ?_, ?_, ?_, sound.nodup, ?_, ?_, sound.quiet⟩
  · intro j
    have before := sound.counted j
    rw [parts.countP_eq, List.countP_cons] at before
    change c.refsAt j = _ at before
    change (c.lower id).refsAt j = List.countP _ (out.erase h ++ c.bound)
    rw [refsAt, before, refers]
    by_cases same : j = id
    · simp [same]
    · simp [same, Ne.symm same]
  · intro k member j refers'
    change ((c.lower id).key? j).map Key.kind = some k.kind
    rw [Cache.key?_lower]
    exact sound.kinds k (parts.mem_iff.mpr (List.mem_cons_of_mem _ member)) j refers'
  · intro opened j
    refine (sound.listed opened j).trans ?_
    change 0 < c.refsAt j ∨ none = some j ↔ 0 < (c.lower id).refsAt j ∨ _ = some j
    rw [refsAt]
    by_cases same : j = id
    · rw [if_pos same, same]
      split
      · simp [pos]
      · simp
        omega
    · rw [if_neg same]
      split
      · simp [Ne.symm same]
      · rfl
  · intro j gone
    dsimp only at gone
    split at gone
    · rename_i last
      obtain rfl := Option.some.inj gone
      refine ⟨?_, ?_⟩
      · simpa [Cache.lower, Cache.modifyBlock] using Cache.block?_lt found
      · change (c.lower id).refsAt id = 0
        rw [refsAt, if_pos rfl]
        omega
    · contradiction
  · intro i hi j hj same
    change (c.lower id).key? i = (c.lower id).key? j at same
    rw [Cache.key?_lower, Cache.key?_lower] at same
    exact sound.distinct i hi j hj same
  · intro p
    obtain ⟨rest, before, after⟩ :=
      Cache.owned_modifyBlock found fun b => { b with refs := b.refs - 1 }
    have loaded? : c.loaded? id = b.slot.payload? := by rw [Cache.loaded?, found, Option.bind_some]
    have same_loaded : (c.lower id).loaded? = c.loaded? := funext (Cache.loaded?_lower c id)
    have held : b.held = b.slot.payload?.toList := by rw [Block.held, if_neg (by omega)]
    rw [held] at before
    refine (sound.holders p).trans ?_
    change _ = List.count p (kept ++ (Option.bind _ (c.lower id).loaded?).toList ++
      (c.modifyBlock id _).owned)
    rw [same_loaded]
    simp only [holdings, List.count_append, before.count_eq, after.count_eq]
    -- The payload is held by the entry, or else by the caller for the entry that leaves.
    split
    · rename_i last
      have none_left : Block.held { b with refs := b.refs - 1 } = [] := by
        rw [Block.held, if_pos (by dsimp only; omega)]
      rw [none_left, Option.bind_some, loaded?]
      simp only [Option.bind_none, Option.toList_none, List.count_nil]
      omega
    · have still : Block.held { b with refs := b.refs - 1 } = b.slot.payload?.toList := by
        rw [Block.held, if_neg (by dsimp only; omega)]
      rw [still]

/-- The entry that was about to leave has left. -/
theorem dismiss {id : BlockId} (sound : Sound ⟨c, out, kept, some id⟩) :
    Sound ⟨(c.dismiss id).1, out, (c.dismiss id).2.toList ++ kept, none⟩ := by
  obtain ⟨made, zero⟩ := sound.left id rfl
  obtain ⟨blocks, cells, alive, payload⟩ := Cache.dismiss_frame c id
  have block? : (c.dismiss id).1.block? = c.block? := by
    funext j
    rw [Cache.block?, Cache.block?, blocks]
  have refsAt : (c.dismiss id).1.refsAt = c.refsAt := by
    funext j
    rw [Cache.refsAt, Cache.refsAt, block?]
  have key? : (c.dismiss id).1.key? = c.key? := by
    funext j
    rw [Cache.key?, Cache.key?, block?]
  have bound : (c.dismiss id).1.bound = c.bound := by rw [Cache.bound, Cache.bound, cells]
  have owned : (c.dismiss id).1.owned = c.owned := by rw [Cache.owned, Cache.owned, blocks]
  have holdersAt : (c.dismiss id).1.holdersAt = c.holdersAt := by
    funext p
    rw [Cache.holdersAt, Cache.holdersAt, cells]
  have shrinks : ((c.dismiss id).1.order ⊆ c.order ∧ (c.dismiss id).1.order.Nodup) ∧
      (∀ key, .lost key ∉ (c.dismiss id).1.log) ∧
      (c.open_ = true → (c.dismiss id).1.order ~ c.order.erase id) := by
    cases opened : c.open_ with
    | true =>
      obtain ⟨order, quiet⟩ :=
        Cache.dismiss_listed opened made ((sound.listed opened id).mpr (.inr rfl))
      refine ⟨⟨?_, order.nodup_iff.mpr (sound.nodup.erase id)⟩, ?_, fun _ => order⟩
      · exact fun j listed => List.mem_of_mem_erase (order.mem_iff.mp listed)
      · exact fun key lost => sound.quiet key (quiet key lost)
    | false =>
      rw [Cache.dismiss_closed opened id]
      exact ⟨⟨List.Subset.refl _, sound.nodup⟩, sound.quiet, by simp⟩
  obtain ⟨⟨subset, nodup⟩, quiet, erased⟩ := shrinks
  refine ⟨?_, ?_, ?_, ?_, nodup, ?_, ?_, quiet⟩
  · intro j
    have before := sound.counted j
    simpa only [live, refsAt, bound] using before
  · intro h member j refers
    dsimp only
    rw [key?]
    refine sound.kinds h ?_ j refers
    simpa only [live, bound] using member
  · intro opened j
    have opened' : c.open_ = true := alive ▸ opened
    dsimp only
    rw [refsAt, (erased opened').mem_iff, sound.nodup.mem_erase_iff, sound.listed opened' j]
    dsimp only
    by_cases same : j = id
    · simp [same, zero]
    · simp [same, Ne.symm same]
  · intro j gone
    contradiction
  · intro i hi j hj same
    dsimp only at same
    rw [key?] at same
    exact sound.distinct i (subset hi) j (subset hj) same
  · intro p
    have before := sound.holders p
    simp only [holdings, List.count_append, holdersAt, owned, payload] at before ⊢
    rw [before]
    simp only [Option.bind_some, Option.bind_none, Option.toList_none, List.count_nil]
    omega

/-- A holder less; handles of a payload that is destroyed move outside. -/
theorem unhold (sound : Sound s) {p : PayloadId} (mine : p ∈ s.kept) :
    Sound
      { s with
        cache := (s.cache.dropHolder p).1
        out := (s.cache.dropHolder p).2 ++ s.out
        kept := s.kept.erase p } := by
  obtain ⟨blocks, order, alive, quiet⟩ := Cache.dropHolder_frame s.cache p
  obtain ⟨parts, holdersAt⟩ := Cache.dropHolder_effect s.cache p
  refine sound.of_perm blocks order alive rfl ?_ ?_ quiet
  · change (s.cache.dropHolder p).2 ++ s.out ++ (s.cache.dropHolder p).1.bound ~ s.out ++ s.cache.bound
    refine List.Perm.trans ?_ (parts.symm.append_left s.out)
    rw [← List.append_assoc]
    exact List.perm_append_comm.append_right _
  · intro q
    have before := sound.holders q
    have loaded? : (s.cache.dropHolder p).1.loaded? = s.cache.loaded? := by
      funext id
      rw [Cache.loaded?, Cache.loaded?, Cache.block?, Cache.block?, blocks]
    have owned : (s.cache.dropHolder p).1.owned = s.cache.owned := by
      rw [Cache.owned, Cache.owned, blocks]
    have kept := (List.perm_cons_erase mine).count_eq q
    rw [List.count_cons] at kept
    change (s.cache.dropHolder p).1.holdersAt q = List.count q (s.kept.erase p ++
      (s.leaving.bind (s.cache.dropHolder p).1.loaded?).toList ++ (s.cache.dropHolder p).1.owned)
    rw [holdersAt, before, loaded?, owned]
    simp only [holdings, List.count_append, kept]
    by_cases same : q = p
    · rw [if_pos same, if_pos (by simpa using same.symm)]
      omega
    · rw [if_neg same, if_neg (by simpa using Ne.symm same)]
      omega

/-- A further holder of the payload of an entry. -/
theorem hold (sound : Sound s) {id : BlockId} {p : PayloadId} (pos : 0 < s.cache.refsAt id)
    (loaded : s.cache.loaded? id = some p) :
    Sound { s with cache := s.cache.hold p, kept := p :: s.kept } := by
  have held : 0 < s.cache.holdersAt p := by
    rw [sound.holders p, List.count_pos_iff]
    exact List.mem_append_right _ (Cache.mem_owned pos loaded)
  obtain ⟨parts, holdersAt⟩ := Cache.hold_effect held
  refine sound.of_perm rfl rfl rfl rfl (parts.append_left s.out) ?_ (fun _ lost => lost)
  intro q
  have before := sound.holders q
  change (s.cache.hold p).holdersAt q = (p :: s.holdings).count q
  rw [holdersAt, List.count_cons, before]
  by_cases same : q = p
  · rw [if_pos same, if_pos (by simpa using same.symm)]
  · rw [if_neg same, if_neg (by simpa using Ne.symm same)]
    rfl

theorem null (sound : Sound s) (kind : Kind) : Sound { s with out := Handle.null kind :: s.out } := by
  refine sound.of_live rfl rfl rfl rfl ?_ ?_ sound.holders (fun _ lost => lost)
  · intro id
    exact List.countP_cons_of_neg (by simp [Handle.null])
  · intro h member id refers
    rcases List.mem_cons.mp member with rfl | old
    · contradiction
    · exact old

theorem dropNull (sound : Sound s) {h : Handle} (mine : h ∈ s.out) (null : h.block = none) :
    Sound { s with out := s.out.erase h } := by
  have parts : s.live ~ h :: (s.out.erase h ++ s.cache.bound) :=
    (List.perm_cons_erase mine).append_right _
  refine sound.of_live rfl rfl rfl rfl ?_ ?_ sound.holders (fun _ lost => lost)
  · intro id
    rw [parts.countP_eq]
    exact (List.countP_cons_of_neg (by simp [null])).symm
  · intro k member id _
    exact parts.mem_iff.mpr (List.mem_cons_of_mem _ member)

theorem close (sound : Sound ⟨c, out, kept, none⟩) : Sound ⟨c.close, out, kept, none⟩ := by
  refine ⟨sound.counted, sound.kinds, ?_, ?_, List.nodup_nil, ?_, sound.holders, sound.quiet⟩
  · intro opened
    contradiction
  · intro id gone
    contradiction
  · intro i listed
    contradiction

/-- A handle to a key: a further one to the entry that is there, or the first one to a
new entry. -/
theorem request (sound : Sound ⟨c, out, kept, none⟩) (opened : c.open_ = true) (key : Key) :
    Sound ⟨(c.lazy key).1, (c.lazy key).2 :: out, kept, none⟩ := by
  cases found : c.find? key with
  | none =>
    have made : c.lazy key = ((c.insert key Slot.fresh).1, ⟨key.kind, some c.blocks.size⟩) := by
      rw [Cache.lazy, Cache.acquire, found]
      rfl
    rw [made]
    exact Sound.insert sound opened found
  | some id =>
    have known : c.lazy key =
        ((c.retainBlock id).record (.known key), ⟨key.kind, some id⟩) := by
      rw [Cache.lazy, Cache.acquire, found]
    obtain ⟨listed, has⟩ := Cache.find?_eq_some found
    have pos : 0 < c.refsAt id := by simpa using (sound.listed opened id).mp listed
    have retained := sound.retain pos (congrArg (Option.map Key.kind) has)
    rw [known]
    refine retained.of_perm rfl rfl rfl rfl (List.Perm.refl _) retained.holders ?_
    intro lost member
    simpa [Cache.record] using member

/-- A value finds its place in a new entry, or the entry that is there wins and the
value stays with the caller. -/
theorem place (sound : Sound ⟨c, out, kept, none⟩) (opened : c.open_ = true) (name : String)
    {payload : Payload} (own : payload.handles <+~ out) :
    Sound ⟨(c.place name payload).1, (c.place name payload).2.1 :: out.diff payload.handles,
      (c.place name payload).2.2.toList ++ kept, none⟩ := by
  have stored := sound.store own
  unfold Cache.place
  dsimp only
  cases found : (c.store payload).1.find? ⟨name, payload.kind⟩ with
  | none =>
    have carried : Sound ⟨(c.store payload).1, out.diff payload.handles,
        (Slot.preset c.cells.size).payload?.toList ++ kept, none⟩ := stored
    exact carried.insert opened found
  | some id =>
    obtain ⟨listed, has⟩ := Cache.find?_eq_some found
    have pos : 0 < (c.store payload).1.refsAt id := by simpa using (stored.listed opened id).mp listed
    have retained := stored.retain pos (congrArg (Option.map Key.kind) has)
    refine retained.of_perm rfl rfl rfl rfl (List.Perm.refl _) retained.holders ?_
    intro lost member
    simpa [Cache.recordAll, Cache.record] using member

/-- A load ends with a payload in the slot. -/
theorem fill (sound : Sound s) {id : BlockId} {b : Block} {payload : Payload}
    (pos : 0 < s.cache.refsAt id) (found : s.cache.block? id = some b)
    (loading : b.slot.state = .loading) (own : payload.handles <+~ s.out) :
    Sound
      { s with cache := (s.cache.fill id payload).1, out := s.out.diff payload.handles } := by
  have unloaded : b.slot.payload? = none := by rw [Slot.payload?, loading]
  have stored := sound.store own
  exact Sound.modifySlot (f := (·.filled s.cache.cells.size)) stored pos found unloaded

/-- Every step keeps the books. -/
theorem step {t : Pool} (sound : Sound s) (step : Step s t) : Sound t := by
  cases step with
  | request key alive => exact sound.request alive key
  | place name payload alive own => exact sound.place alive name own
  | clone h live =>
    obtain ⟨kind, block⟩ := h
    cases block with
    | none => exact sound.null kind
    | some id =>
      exact sound.retain (sound.refsAt_pos live rfl) (sound.kinds _ live id rfl)
  | null kind => exact sound.null kind
  | dropNull h mine null => exact sound.dropNull mine null
  | lower h id mine refers => exact sound.lower mine refers
  | dismiss id => exact sound.dismiss
  | unhold p mine => exact sound.unhold mine
  | hold h id p live refers loaded => exact sound.hold (sound.refsAt_pos live refers) loaded
  | claim h id b waiting live refers found claims =>
    have unloaded : b.slot.payload? = none := by
      rw [Slot.payload?, (Slot.look_eq_claim_iff.mp claims).1]
    exact Sound.modifySlot (f := Slot.claimed) sound (sound.refsAt_pos live refers) found unloaded
  | fill h id b payload live refers found loading own =>
    have pos : 0 < s.cache.refsAt id := by
      refine sound.refsAt_pos (List.mem_append.mpr ?_) refers
      exact (List.mem_append.mp live).imp_left (List.diff_subset _ _ ·)
    exact sound.fill pos found loading own
  | abandon h id b live refers found loading =>
    have unloaded : b.slot.payload? = none := by rw [Slot.payload?, loading]
    exact Sound.modifySlot (f := Slot.failed) sound (sound.refsAt_pos live refers) found unloaded
  | close => exact sound.close
  | aside c blocks order cells alive quiet =>
    refine sound.of_perm blocks order alive rfl ?_ ?_ quiet
    · rw [Pool.live, Pool.live, Cache.bound, Cache.bound, cells]
    · intro p
      have before := sound.holders p
      have loaded? : c.loaded? = s.cache.loaded? := by
        funext id
        rw [Cache.loaded?, Cache.loaded?, Cache.block?, Cache.block?, blocks]
      simp only [holdings, Cache.holdersAt, Cache.owned, cells, blocks, loaded?] at before ⊢
      exact before

/-- Every run from a sound pool keeps the books. -/
theorem run {t : Pool} (sound : Sound s) (run : Run s t) : Sound t := by
  induction run with
  | refl => exact sound
  | tail _ last ih => exact ih.step last

end Sound

end Pool

end TileEngine
