import TileEngine.Proofs.Cache.Giving
import TileEngine.Proofs.Loader.Honest

/-!
What a call leaves alone. Whatever a caller does while an entry is being loaded, by
itself further up or by others, that entry stays claimed; payloads stay what they are;
and the cache stays open with the same loaders.
-/

namespace TileEngine

namespace Cache

/-- The slot of an entry that was made. -/
def slotAt? (c : Cache) (id : BlockId) : Option Slot := (c.block? id).map Block.slot

structure Calm (c d : Cache) : Prop where
  open_ : d.open_ = c.open_
  waitLimit : d.waitLimit = c.waitLimit
  loaders : d.loaders = c.loaders
  busy : ∀ id slot, c.slotAt? id = some slot → slot.state = .loading → d.slotAt? id = some slot
  payloads : ∀ p payload, c.payload? p = some payload → d.payload? p = some payload

/-- Only the record has changed, and no entry was reported missing. -/
structure Recorded (c d : Cache) : Prop where
  same : d = { c with log := d.log }
  quiet : ∀ key, .lost key ∈ d.log → .lost key ∈ c.log

variable {c d e : Cache} {id : BlockId}

theorem slotAt?_modifyBlock {f : Block → Block} (keeps : ∀ b, (f b).slot = b.slot)
    (id j : BlockId) : (c.modifyBlock id f).slotAt? j = c.slotAt? j := by
  rw [slotAt?, slotAt?, block?_modifyBlock]
  split
  · rw [Option.map_map]
    exact congrArg (Option.map · _) (funext keeps)
  · rfl

theorem slotAt?_modifySlot (c : Cache) (id : BlockId) (f : Slot → Slot) (j : BlockId) :
    (c.modifySlot id f).slotAt? j = if j = id then (c.slotAt? j).map f else c.slotAt? j := by
  rw [slotAt?, slotAt?, modifySlot, block?_modifyBlock]
  split
  · rw [Option.map_map, Option.map_map]
    rfl
  · rfl

theorem slotAt?_insert (c : Cache) (key : Key) (slot : Slot) (j : BlockId) :
    (c.insert key slot).1.slotAt? j = if j = c.blocks.size then some slot else c.slotAt? j := by
  rw [slotAt?, slotAt?, block?_insert]
  split
  · rfl
  · rfl

theorem block?_of_slotAt? {slot : Slot} (found : c.slotAt? id = some slot) :
    ∃ b, c.block? id = some b ∧ b.slot = slot :=
  Option.map_eq_some_iff.mp found

theorem slotAt?_of_block? {b : Block} (found : c.block? id = some b) :
    c.slotAt? id = some b.slot :=
  congrArg (Option.map Block.slot) found

namespace Calm

theorem refl (c : Cache) : Calm c c :=
  ⟨rfl, rfl, rfl, fun _ _ found _ => found, fun _ _ found => found⟩

theorem trans (first : Calm c d) (second : Calm d e) : Calm c e := by
  refine ⟨second.open_.trans first.open_, second.waitLimit.trans first.waitLimit,
    second.loaders.trans first.loaders, ?_, ?_⟩
  · intro id slot found loading
    exact second.busy id slot (first.busy id slot found loading) loading
  · intro p payload found
    exact second.payloads p payload (first.payloads p payload found)

theorem honest (calm : Calm c d) (loaders : ∀ l ∈ c.loaders, l.Honest) :
    ∀ l ∈ d.loaders, l.Honest := by
  rw [calm.loaders]
  exact loaders

theorem of_blocks (open_ : d.open_ = c.open_) (waitLimit : d.waitLimit = c.waitLimit)
    (loaders : d.loaders = c.loaders) (blocks : d.blocks = c.blocks)
    (payloads : ∀ p payload, c.payload? p = some payload → d.payload? p = some payload) :
    Calm c d := by
  refine ⟨open_, waitLimit, loaders, ?_, payloads⟩
  intro id slot found _
  rw [slotAt?, block?, blocks]
  exact found

theorem modifyBlock {f : Block → Block} (keeps : ∀ b, (f b).slot = b.slot) (c : Cache)
    (id : BlockId) : Calm c (c.modifyBlock id f) := by
  refine ⟨rfl, rfl, rfl, ?_, fun _ _ found => found⟩
  intro j slot found _
  rw [slotAt?_modifyBlock keeps]
  exact found

theorem lower (c : Cache) (id : BlockId) : Calm c (c.lower id) := by
  refine modifyBlock ?_ c id
  exact fun _ => rfl

/-- The slot of an entry that nobody was loading may change in whatever way. -/
theorem modifySlot (calm : Calm c d) {slot : Slot} (found : c.slotAt? id = some slot)
    (free : slot.state ≠ .loading) (f : Slot → Slot) : Calm c (d.modifySlot id f) := by
  refine ⟨calm.open_, calm.waitLimit, calm.loaders, ?_, calm.payloads⟩
  intro j other busy loading
  rw [slotAt?_modifySlot, if_neg]
  · exact calm.busy j other busy loading
  · rintro rfl
    rw [found, Option.some.injEq] at busy
    exact free (busy ▸ loading)

theorem store (c : Cache) (payload : Payload) : Calm c (c.store payload).1 := by
  refine of_blocks rfl rfl rfl rfl ?_
  intro p content found
  obtain ⟨cell, here, same⟩ := Option.map_eq_some_iff.mp found
  obtain ⟨bound, -⟩ := Array.getElem?_eq_some_iff.mp here
  change Option.map Cell.payload ((c.cells.push _)[p]?) = some content
  rw [Array.getElem?_push, if_neg (Nat.ne_of_lt bound), here, Option.map_some, same]

theorem recorded (r : Recorded c d) : Calm c d := by
  rw [r.same]
  exact of_blocks rfl rfl rfl rfl fun _ _ found => found

theorem lazy (c : Cache) (key : Key) : Calm c (c.lazy key).1 := by
  change Calm c (c.acquire key).1
  unfold acquire
  split
  · rename_i old _
    have known : Calm c (c.retainBlock old) := by
      refine modifyBlock ?_ c old
      exact fun _ => rfl
    exact known.trans (of_blocks rfl rfl rfl rfl fun _ _ found => found)
  · refine ⟨rfl, rfl, rfl, ?_, fun _ _ found => found⟩
    intro j slot found _
    obtain ⟨b, made, -⟩ := block?_of_slotAt? found
    rw [slotAt?_insert, if_neg (Nat.ne_of_lt (block?_lt made))]
    exact found

theorem dismiss (c : Cache) (id : BlockId) : Calm c (c.dismiss id).1 := by
  unfold Cache.dismiss
  split
  · exact refl c
  · dsimp only
    split
    · unfold evict
      split
      · exact of_blocks rfl rfl rfl rfl fun _ _ found => found
      · exact of_blocks rfl rfl rfl rfl fun _ _ found => found
    · exact refl c

theorem dropRef (c : Cache) (id : BlockId) : Calm c (c.dropRef id).1 := by
  rw [dropRef_eq]
  split
  · exact (lower c id).trans (dismiss _ id)
  · exact lower c id

theorem dropHolder (c : Cache) (p : PayloadId) : Calm c (c.dropHolder p).1 := by
  have payloads (q : PayloadId) (payload : Payload) (found : c.payload? q = some payload) :
      Option.map Cell.payload ((c.cells.modify p fun cell =>
        { cell with holders := cell.holders - 1 })[q]?) = some payload := by
    rw [Array.getElem?_modify]
    split
    · rw [Option.map_map]
      exact found
    · exact found
  unfold Cache.dropHolder
  split
  · exact refl c
  · dsimp only
    split
    · exact of_blocks rfl rfl rfl rfl payloads
    · exact of_blocks rfl rfl rfl rfl payloads

theorem releaseOne (c : Cache) (h : Handle) : Calm c (c.releaseOne h).1 := by
  cases refers : h.block with
  | none =>
    rw [releaseOne_null refers]
    exact refl c
  | some id =>
    have drop := dropRef c id
    rcases dropped : c.dropRef id with ⟨d, _ | p⟩
    · rw [dropped] at drop
      rw [releaseOne_left refers dropped]
      exact drop
    · rw [dropped] at drop
      rw [releaseOne_destroyed refers dropped]
      exact drop.trans (dropHolder d p)

theorem releaseAll (c : Cache) (handles : List Handle) : Calm c (c.releaseAll handles) := by
  unfold Cache.releaseAll
  generalize handles.length + c.handleCount = steps
  induction steps generalizing c handles with
  | zero => exact refl c
  | succ steps ih =>
    cases handles with
    | nil => exact refl c
    | cons h rest => exact (releaseOne c h).trans (ih _ _)

end Calm

namespace Recorded

theorem refl (c : Cache) : Recorded c c := ⟨rfl, fun _ lost => lost⟩

theorem trans (first : Recorded c d) (second : Recorded d e) : Recorded c e := by
  refine ⟨?_, ?_⟩
  · rw [second.same, first.same]
  · intro key lost
    exact first.quiet key (second.quiet key lost)

theorem record {event : Event} (quiet : event.Quiet) (c : Cache) : Recorded c (c.record event) := by
  refine ⟨rfl, ?_⟩
  intro key lost
  rcases Array.mem_push.mp lost with old | new
  · exact old
  · exact absurd new.symm (quiet key)

theorem recordAll {events : List Event} (quiet : ∀ e ∈ events, e.Quiet) (c : Cache) :
    Recorded c (c.recordAll events) := by
  induction events generalizing c with
  | nil => exact refl c
  | cons event rest ih =>
    have first := record (quiet event List.mem_cons_self) c
    have others := ih (fun e member => quiet e (List.mem_cons_of_mem _ member)) (c.record event)
    exact first.trans others

end Recorded

/-- The search for a loader puts some events on record: its own, and what the loaders
report that it asks. In an open cache only it finds a script, which is that of a loader. -/
theorem prepare_cases {ok : Event → Prop} (own : ∀ e : Event, e.OfSearch → ok e)
    (probes : ∀ l ∈ c.loaders, ∀ s, ∀ e ∈ (l.probe s).events, ok e)
    (openings : ∀ l ∈ c.loaders, ∀ s context, ∀ e ∈ l.opening s context, ok e) (key : Key) :
    ∃ events, (c.prepare key).1 = c.recordAll events ∧ (∀ e ∈ events, ok e) ∧
      ∀ script, (c.prepare key).2 = some script →
        c.open_ = true ∧ ∃ l ∈ c.loaders, ∃ s context, script = l.decode s context := by
  have single (e : Event) (searched : e.OfSearch) : ∀ e' ∈ [e], ok e' := by
    intro e' member
    rw [List.mem_singleton.mp member]
    exact own e searched
  unfold prepare
  split
  · exact ⟨[.ownerGone key], rfl, single _ trivial, by simp⟩
  · rename_i opened
    dsimp only
    split
    · exact ⟨[.noLoader key], rfl, single _ trivial, by simp⟩
    · split
      · rename_i cause _
        exact ⟨[.notOpened key.name cause], rfl, single _ trivial, by simp⟩
      · rename_i stream _
        have asked : ∀ l ∈ c.loaders.filter (·.supports key.kind), ∀ s, ∀ e ∈ (l.probe s).events, ok e :=
          fun l member => probes l (List.mem_of_mem_filter member)
        have among := Loader.choose_among asked stream
        rcases chosen : Loader.choose (c.loaders.filter (·.supports key.kind)) stream with
          ⟨events, ⟨loader, s⟩ | cause | _⟩
        · rw [chosen] at among
          have member := List.mem_of_mem_filter (among.2 loader s rfl)
          refine ⟨events ++ loader.opening s ((c.recordAll events).context key), ?_, ?_, ?_⟩
          · simp only [recordAll, List.foldl_append]
          · exact List.forall_mem_append.mpr ⟨among.1, openings loader member _ _⟩
          · intro script same
            cases same
            exact ⟨by simpa using opened, loader, member, _, _, rfl⟩
        · rw [chosen] at among
          refine ⟨events ++ [.notRewound key.name cause], ?_,
            List.forall_mem_append.mpr ⟨among.1, single (.notRewound key.name cause) trivial⟩, by simp⟩
          simp only [recordAll, List.foldl_append]
          rfl
        · rw [chosen] at among
          refine ⟨events ++ [.notAccepted key], ?_,
            List.forall_mem_append.mpr ⟨among.1, single (.notAccepted key) trivial⟩, by simp⟩
          simp only [recordAll, List.foldl_append]
          rfl

/-- The search for a loader leaves the cache alone, and finds an honest script in an open
one only. -/
theorem prepare_recorded (honest : ∀ l ∈ c.loaders, l.Honest) (key : Key) :
    Recorded c (c.prepare key).1 ∧
      ∀ script, (c.prepare key).2 = some script → c.open_ = true ∧ script.Honest [] := by
  have own (e : Event) (searched : e.OfSearch) : e.Quiet := by
    intro key same
    rw [same] at searched
    exact searched
  obtain ⟨events, same, quiet, found⟩ := prepare_cases own (fun l member => (honest l member).probe)
    (fun l member => (honest l member).opening) key
  refine ⟨same ▸ Recorded.recordAll quiet c, ?_⟩
  intro script here
  obtain ⟨opened, l, member, s, context, rfl⟩ := found script here
  exact ⟨opened, (honest l member).decode s context⟩

end Cache

end TileEngine
