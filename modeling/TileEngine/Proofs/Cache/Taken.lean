import TileEngine.Proofs.Cache.Calm

/-!
Taking handles and giving them back. Entries that are made for handles stand behind all others, and
leave again with those handles; so a cache that gets back all handles that were taken since some
moment holds what it held then, in the same order.
-/

namespace TileEngine

open scoped List

namespace Cache

/-- Where an entry is in its life. -/
def state? (c : Cache) (id : BlockId) : Option SlotState := (c.slotAt? id).map Slot.state

/-- A cache holds what another one held: the same entries in the same order, with as many references
to each, and the same payloads inside them, each with as many holders. Entries that were made
meanwhile are gone again. -/
structure Unchanged (c d : Cache) : Prop where
  alive : d.open_ = c.open_
  order : d.order = c.order
  cells : d.cells = c.cells
  size : c.blocks.size ≤ d.blocks.size
  keys : ∀ id key, c.key? id = some key → d.key? id = some key
  refs : ∀ id, d.refsAt id = c.refsAt id
  states : ∀ id state, c.state? id = some state → d.state? id = some state

/-- A cache holds what another one held, and besides it entries for some handles that were taken. -/
structure Taken (c d : Cache) (taken : List Handle) : Prop where
  alive : d.open_ = c.open_
  cells : d.cells = c.cells
  size : c.blocks.size ≤ d.blocks.size
  keys : ∀ id key, c.key? id = some key → d.key? id = some key
  refs : ∀ id, d.refsAt id = c.refsAt id + taken.countP (·.block = some id)
  states : ∀ id state, c.state? id = some state → d.state? id = some state
  /-- No handle was taken to an entry that had been evicted. -/
  known : ∀ h ∈ taken, ∀ id < c.blocks.size, h.block = some id → 0 < c.refsAt id
  /-- Entries that were made meanwhile have no payload. -/
  unfilled : ∀ id, c.blocks.size ≤ id → 0 < d.refsAt id → d.loaded? id = none
  /-- They stand behind the others. -/
  order : ∃ added, d.order = c.order ++ added ∧ added.Nodup ∧
    ∀ id, id ∈ added ↔ c.blocks.size ≤ id ∧ 0 < d.refsAt id

variable {c d e : Cache} {id : BlockId} {taken : List Handle} {h : Handle}

/-! ## Views of an entry -/

theorem state?_of_block? {b : Block} (found : c.block? id = some b) :
    c.state? id = some b.slot.state := by
  rw [state?, slotAt?_of_block? found]
  rfl

/-- What an entry has loaded depends on its state alone. -/
theorem loaded?_eq (c : Cache) (id : BlockId) :
    c.loaded? id = (c.state? id).bind fun | .loaded p => some p | _ => none := by
  unfold loaded? state? slotAt?
  cases c.block? id with
  | none => rfl
  | some b => rfl

@[simp] theorem state?_retainBlock (c : Cache) (id j : BlockId) :
    (c.retainBlock id).state? j = c.state? j := by
  refine congrArg (Option.map Slot.state) (slotAt?_modifyBlock ?_ id j)
  exact fun _ => rfl

@[simp] theorem state?_lower (c : Cache) (id j : BlockId) : (c.lower id).state? j = c.state? j := by
  refine congrArg (Option.map Slot.state) (slotAt?_modifyBlock ?_ id j)
  exact fun _ => rfl

theorem state?_modifySlot_of_ne {j : BlockId} (other : j ≠ id) (f : Slot → Slot) :
    (c.modifySlot id f).state? j = c.state? j := by
  rw [state?, slotAt?_modifySlot, if_neg other]
  rfl

/-- A load that ends without a payload leaves its entry empty. -/
theorem state?_abandon {state : SlotState} (made : c.state? id = some state) :
    (c.abandon id).state? id = some .empty := by
  obtain ⟨slot, found, -⟩ := Option.map_eq_some_iff.mp made
  rw [abandon, state?, slotAt?_modifySlot, if_pos rfl, found]
  rfl

theorem state?_claimed {state : SlotState} (made : c.state? id = some state) :
    (c.modifySlot id Slot.claimed).state? id = some .loading := by
  obtain ⟨slot, found, -⟩ := Option.map_eq_some_iff.mp made
  rw [state?, slotAt?_modifySlot, if_pos rfl, found]
  rfl

/-! ## Caches that hold the same -/

namespace Unchanged

theorem refl (c : Cache) : Unchanged c c :=
  ⟨rfl, rfl, rfl, Nat.le_refl _, fun _ _ same => same, fun _ => rfl, fun _ _ same => same⟩

theorem trans (first : Unchanged c d) (second : Unchanged d e) : Unchanged c e := by
  refine ⟨second.alive.trans first.alive, second.order.trans first.order,
    second.cells.trans first.cells, Nat.le_trans first.size second.size, ?_, ?_, ?_⟩
  · intro id key found
    exact second.keys id key (first.keys id key found)
  · intro id
    exact (second.refs id).trans (first.refs id)
  · intro id state found
    exact second.states id state (first.states id state found)

theorem recordAll (c : Cache) (events : List Event) : Unchanged c (c.recordAll events) := by
  rw [recordAll_eq]
  exact ⟨rfl, rfl, rfl, Nat.le_refl _, fun _ _ same => same, fun _ => rfl, fun _ _ same => same⟩

theorem record (c : Cache) (event : Event) : Unchanged c (c.record event) := recordAll c [event]

/-- A load that ends without a payload leaves its entry as it found it. -/
theorem abandon (unchanged : Unchanged (c.modifySlot id Slot.claimed) d)
    (empty : c.state? id = some .empty) : Unchanged c (d.abandon id) := by
  have claimed := unchanged.states id _ (state?_claimed empty)
  refine ⟨unchanged.alive, unchanged.order, unchanged.cells, ?_, ?_, ?_, ?_⟩
  · have size := unchanged.size
    simpa [Cache.abandon, modifySlot, modifyBlock] using size
  · intro j key found
    rw [Cache.abandon, key?_modifySlot]
    exact unchanged.keys j key ((key?_modifySlot c id _ j).trans found)
  · intro j
    rw [Cache.abandon, refsAt_modifySlot, unchanged.refs, refsAt_modifySlot]
  · intro j state found
    by_cases same : j = id
    · subst same
      rw [← found, empty]
      exact state?_abandon claimed
    · rw [Cache.abandon, state?_modifySlot_of_ne same]
      exact unchanged.states j state ((state?_modifySlot_of_ne same _).trans found)

end Unchanged

namespace Taken

theorem refl (c : Cache) : Taken c c [] := by
  refine ⟨rfl, rfl, Nat.le_refl _, fun _ _ same => same, fun _ => rfl, fun _ _ same => same, ?_, ?_,
    [], (List.append_nil _).symm, List.nodup_nil, ?_⟩
  · simp
  · intro id new pos
    rw [refsAt_of_size_le new] at pos
    contradiction
  · intro id
    refine ⟨fun member => absurd member List.not_mem_nil, ?_⟩
    rintro ⟨new, pos⟩
    rw [refsAt_of_size_le new] at pos
    contradiction

/-- Where all that was taken has been given back nothing is left of it. -/
theorem unchanged (all : Taken c d []) : Unchanged c d := by
  refine ⟨all.alive, ?_, all.cells, all.size, all.keys, all.refs, all.states⟩
  obtain ⟨added, order, -, members⟩ := all.order
  have nothing : added = [] := by
    refine List.eq_nil_iff_forall_not_mem.mpr ?_
    intro id member
    obtain ⟨new, pos⟩ := (members id).mp member
    rw [all.refs id, refsAt_of_size_le new] at pos
    contradiction
  rw [order, nothing, List.append_nil]

theorem then_unchanged (before : Taken c d taken) (unchanged : Unchanged d e) : Taken c e taken := by
  refine ⟨unchanged.alive.trans before.alive, unchanged.cells.trans before.cells,
    Nat.le_trans before.size unchanged.size, ?_, ?_, ?_, before.known, ?_, ?_⟩
  · intro id key found
    exact unchanged.keys id key (before.keys id key found)
  · intro id
    exact (unchanged.refs id).trans (before.refs id)
  · intro id state found
    exact unchanged.states id state (before.states id state found)
  · intro id new pos
    rw [unchanged.refs id] at pos
    obtain ⟨b, made, -⟩ := made_of_refsAt pos
    have state := state?_of_block? made
    rw [loaded?_eq, unchanged.states id _ state, ← state, ← loaded?_eq]
    exact before.unfilled id new pos
  · obtain ⟨added, order, nodup, members⟩ := before.order
    refine ⟨added, unchanged.order.trans order, nodup, fun id => ?_⟩
    rw [unchanged.refs id]
    exact members id

/-- The entries that are listed are referred to. -/
theorem refs_of_listed (before : Taken c d taken) (listed : ∀ id ∈ c.order, 0 < c.refsAt id)
    (member : id ∈ d.order) : 0 < d.refsAt id := by
  obtain ⟨added, order, -, members⟩ := before.order
  rw [order] at member
  rcases List.mem_append.mp member with old | new
  · rw [before.refs id]
    exact Nat.add_pos_left (listed id old) _
  · exact ((members id).mp new).2

/-! ## Taking a handle -/

/-- A handle to an entry that is cached already. -/
theorem again (before : Taken c d taken) (listed : ∀ id ∈ c.order, 0 < c.refsAt id)
    (member : id ∈ d.order) (key : Key) :
    Taken c ((d.retainBlock id).record (.known key)) (taken ++ [⟨key.kind, some id⟩]) := by
  have pos := before.refs_of_listed listed member
  have refs := refsAt_retainBlock (lt_size_of_refsAt pos)
  obtain ⟨added, order, nodup, members⟩ := before.order
  refine ⟨before.alive, before.cells, ?_, ?_, ?_, ?_, ?_, ?_, added, order, nodup, ?_⟩
  · have size := before.size
    simpa [retainBlock, modifyBlock, record] using size
  · intro j k found
    exact (key?_retainBlock d id j).trans (before.keys j k found)
  · intro j
    refine (refs j).trans ?_
    rw [before.refs j, List.countP_append, List.countP_singleton]
    by_cases same : j = id
    · simp [same, Nat.add_assoc]
    · simp [same, Ne.symm same]
  · intro j state found
    exact (state?_retainBlock d id j).trans (before.states j state found)
  · refine List.forall_mem_append.mpr ⟨before.known, List.forall_mem_singleton.mpr ?_⟩
    rintro j old ⟨⟩
    rw [order] at member
    rcases List.mem_append.mp member with listed' | new
    · exact listed _ listed'
    · exact absurd old (Nat.not_lt.mpr ((members _).mp new).1)
  · intro j new pos'
    refine (loaded?_retainBlock d id j).trans (before.unfilled j new ?_)
    change 0 < (d.retainBlock id).refsAt j at pos'
    rw [refs] at pos'
    split at pos'
    · rename_i same
      exact same ▸ pos
    · exact pos'
  · intro j
    refine (members j).trans (and_congr_right fun _ => ?_)
    change 0 < d.refsAt j ↔ 0 < (d.retainBlock id).refsAt j
    rw [refs]
    split
    · rename_i same
      rw [same]
      exact ⟨fun _ => Nat.succ_pos _, fun _ => pos⟩
    · rfl

/-- A handle to an entry that is made for it. -/
theorem anew (before : Taken c d taken) (key : Key) :
    Taken c (d.insert key Slot.fresh).1 (taken ++ [⟨key.kind, some d.blocks.size⟩]) := by
  have refs := refsAt_insert d key Slot.fresh
  obtain ⟨added, order, nodup, members⟩ := before.order
  have absent : d.refsAt d.blocks.size = 0 := refsAt_of_size_le (Nat.le_refl _)
  have old {j : BlockId} (made : j < d.blocks.size) : j ≠ d.blocks.size := Nat.ne_of_lt made
  refine ⟨before.alive, before.cells, ?_, ?_, ?_, ?_, ?_, ?_, added ++ [d.blocks.size], ?_, ?_, ?_⟩
  · refine Nat.le_trans before.size ?_
    change d.blocks.size ≤ (d.blocks.push _).size
    rw [Array.size_push]
    exact Nat.le_succ _
  · intro j k found
    obtain ⟨b, made, -⟩ := key?_eq_some_iff.mp (before.keys j k found)
    rw [key?_insert, if_neg (old (block?_lt made))]
    exact before.keys j k found
  · intro j
    rw [refs, List.countP_append, List.countP_singleton, ← Nat.add_assoc, ← before.refs j]
    by_cases same : j = d.blocks.size
    · simp [same, absent]
    · simp [same, Ne.symm same]
  · intro j state found
    have there := before.states j state found
    obtain ⟨slot, made, -⟩ := Option.map_eq_some_iff.mp there
    obtain ⟨b, made, -⟩ := block?_of_slotAt? made
    rw [state?, slotAt?_insert, if_neg (old (block?_lt made))]
    exact there
  · refine List.forall_mem_append.mpr ⟨before.known, List.forall_mem_singleton.mpr ?_⟩
    rintro j older ⟨⟩
    exact absurd older (Nat.not_lt.mpr before.size)
  · intro j new pos
    rw [loaded?_insert]
    rw [refs] at pos
    split
    · rfl
    · rename_i other
      rw [if_neg other] at pos
      exact before.unfilled j new pos
  · change d.order ++ [d.blocks.size] = _
    rw [order, List.append_assoc]
  · refine List.nodup_append.mpr ⟨nodup, List.pairwise_singleton _ _, ?_⟩
    intro j member k last
    rw [List.mem_singleton.mp last]
    exact old (lt_size_of_refsAt ((members j).mp member).2)
  · intro j
    rw [List.mem_append, List.mem_singleton, members j, refs]
    by_cases same : j = d.blocks.size
    · simp [same, before.size]
    · simp [same]

theorem lazy (before : Taken c d taken) (listed : ∀ id ∈ c.order, 0 < c.refsAt id) (key : Key) :
    Taken c (d.lazy key).1 (taken ++ [(d.lazy key).2]) := by
  unfold Cache.lazy acquire
  cases found : d.find? key with
  | some id => exact before.again listed (find?_eq_some found).1 key
  | none => exact before.anew key

end Taken

/-! ## Giving handles back -/

/-- An entry that stands behind others leaves without moving those. -/
theorem evict_behind {front added : List BlockId} (order : c.order = front ++ added)
    (outside : id ∉ front) (inside : id ∈ added) (key : Key) :
    ∃ rest, (c.evict id key).order = front ++ rest ∧ rest ~ added.erase id := by
  have missing : front.findIdx? (· == id) = none := by
    rw [List.findIdx?_eq_none_iff]
    intro j member
    exact beq_false_of_ne fun same => outside (same ▸ member)
  have found : added.findIdx? (· == id) = some (added.idxOf id) :=
    List.findIdx?_eq_some_of_exists ⟨id, inside, beq_self_eq_true id⟩
  obtain ⟨before, last, rfl⟩ := (List.eq_nil_or_concat added).resolve_left (List.ne_nil_of_mem inside)
  refine ⟨swapRemove (before.concat last) ((before.concat last).idxOf id), ?_, ?_⟩
  · unfold evict
    rw [order, List.findIdx?_append, missing, found]
    dsimp only [Option.or, Option.map]
    unfold swapRemove
    rw [List.concat_eq_append, List.getLast?_append, List.getLast?_append, List.getLast?_singleton]
    dsimp only [Option.or]
    rw [List.set_append_right _ _ (Nat.le_add_left _ _), Nat.add_sub_cancel]
    exact List.dropLast_append_of_ne_nil (by simp)
  · rw [List.erase_eq_eraseIdx_of_idxOf rfl]
    exact swapRemove_perm (List.idxOf_lt_length_of_mem inside)

namespace Taken

/-- The count of an entry falls by one. -/
theorem refs_lower (before : Taken c d (h :: taken)) (refers : h.block = some id) (j : BlockId) :
    (d.lower id).refsAt j = c.refsAt j + taken.countP (·.block = some j) := by
  rw [refsAt_lower, before.refs j, List.countP_cons]
  by_cases same : j = id
  · simp [same, refers]
  · simp [same, refers, Ne.symm same]

/-- The count of an entry falls, and the list becomes what it is to be. -/
theorem give (before : Taken c d (h :: taken)) (refers : h.block = some id)
    (alive : e.open_ = d.open_) (cells : e.cells = d.cells) (blocks : e.blocks = (d.lower id).blocks)
    (order : ∃ added, e.order = c.order ++ added ∧ added.Nodup ∧
      ∀ j, j ∈ added ↔ c.blocks.size ≤ j ∧ 0 < (d.lower id).refsAt j) : Taken c e taken := by
  have same_block : e.block? = (d.lower id).block? := by
    funext j
    rw [block?, block?, blocks]
  have key? (j : BlockId) : e.key? j = d.key? j := by
    rw [Cache.key?, same_block]
    exact key?_lower d id j
  have state? (j : BlockId) : e.state? j = d.state? j := by
    rw [Cache.state?, slotAt?, same_block]
    exact state?_lower d id j
  have refsAt (j : BlockId) : e.refsAt j = (d.lower id).refsAt j := by
    rw [Cache.refsAt, Cache.refsAt, same_block]
  refine ⟨alive.trans before.alive, cells.trans before.cells, ?_, ?_, ?_, ?_, ?_, ?_, ?_⟩
  · have size := before.size
    rw [blocks]
    simpa [lower, modifyBlock] using size
  · intro j k found
    exact (key? j).trans (before.keys j k found)
  · intro j
    exact (refsAt j).trans (before.refs_lower refers j)
  · intro j state found
    exact (state? j).trans (before.states j state found)
  · exact fun k one => before.known k (List.mem_cons_of_mem _ one)
  · intro j new pos
    rw [loaded?_eq, state? j, ← loaded?_eq]
    refine before.unfilled j new ?_
    rw [refsAt j, refsAt_lower] at pos
    split at pos
    · exact Nat.lt_of_lt_of_le pos (Nat.sub_le _ _)
    · exact pos
  · obtain ⟨added, parts, nodup, members⟩ := order
    refine ⟨added, parts, nodup, fun j => ?_⟩
    rw [refsAt j]
    exact members j

theorem give_null (before : Taken c d (h :: taken)) (null : h.block = none) : Taken c d taken := by
  refine ⟨before.alive, before.cells, before.size, before.keys, ?_, before.states, ?_,
    before.unfilled, before.order⟩
  · intro j
    rw [before.refs j, List.countP_cons_of_neg (by simp [null])]
  · exact fun k one => before.known k (List.mem_cons_of_mem _ one)

section

variable (before : Taken c d (h :: taken)) (listed : ∀ id ∈ c.order, 0 < c.refsAt id)
  (refers : h.block = some id)

include before listed refers

/-- The only handle to an entry that was made for it is given back. -/
theorem give_last (alive : d.open_ = true) (last : d.refsAt id ≤ 1) :
    ∃ e, d.dropRef id = (e, none) ∧ Taken c e taken := by
  obtain ⟨added, order, nodup, members⟩ := before.order
  have refs := before.refs id
  rw [List.countP_cons_of_pos (by simp [refers])] at refs
  have pos : 0 < d.refsAt id := by omega
  have new : c.blocks.size ≤ id := by
    by_contra old
    have known := before.known h List.mem_cons_self id (Nat.not_le.mp old) refers
    omega
  have outside : id ∉ c.order := by
    intro member
    exact absurd (lt_size_of_refsAt (listed id member)) (Nat.not_lt.mpr new)
  have inside : id ∈ added := (members id).mpr ⟨new, pos⟩
  obtain ⟨-, -, -, payload⟩ := dismiss_frame (d.lower id) id
  rw [loaded?_lower, before.unfilled id new pos] at payload
  have dropped : d.dropRef id = (((d.lower id).dismiss id).1, none) := by
    rw [dropRef_eq, if_pos last, ← payload]
  refine ⟨_, dropped, ?_⟩
  obtain ⟨b, made, -⟩ := made_of_refsAt pos
  have evicts : ∃ key, ((d.lower id).dismiss id).1 = (d.lower id).evict id key := by
    have there : (d.lower id).block? id = some { b with refs := b.refs - 1 } := by
      rw [lower, block?_modifyBlock, if_pos rfl, made]
      rfl
    refine ⟨b.key, ?_⟩
    unfold dismiss
    rw [there]
    exact if_pos alive
  obtain ⟨key, evicted⟩ := evicts
  rw [evicted]
  obtain ⟨blocks, cells, open_⟩ := evict_frame (d.lower id) id key
  obtain ⟨rest, order', perm⟩ := evict_behind (c := d.lower id) order outside inside key
  refine before.give refers open_ cells blocks ⟨rest, order', ?_, fun j => ?_⟩
  · exact perm.nodup_iff.mpr (nodup.erase id)
  · rw [perm.mem_iff, nodup.mem_erase_iff, members j, refsAt_lower]
    by_cases same : j = id
    · have gone : ¬0 < d.refsAt id - 1 := by omega
      simp [same, gone]
    · simp [same]

/-- A handle that was taken is given back, and no payload comes free. -/
theorem dropRef (alive : d.open_ = true) :
    ∃ e, d.dropRef id = (e, none) ∧ Taken c e taken := by
  by_cases last : d.refsAt id ≤ 1
  · exact before.give_last listed refers alive last
  · obtain ⟨added, order, nodup, members⟩ := before.order
    refine ⟨d.lower id, by rw [dropRef_eq, if_neg last], ?_⟩
    refine before.give refers rfl rfl rfl ⟨added, order, nodup, fun j => ?_⟩
    refine (members j).trans (and_congr_right fun _ => ?_)
    rw [refsAt_lower]
    split
    · rename_i same
      rw [same]
      omega
    · rfl

end

/-- Handles that were taken are given back, one after the other. -/
theorem releaseSteps (before : Taken c d taken) (listed : ∀ id ∈ c.order, 0 < c.refsAt id)
    (alive : c.open_ = true) {steps : Nat} (enough : taken.length ≤ steps) :
    Taken c (Cache.releaseSteps steps d taken) [] := by
  induction steps generalizing d taken with
  | zero =>
    obtain rfl := List.eq_nil_of_length_eq_zero (Nat.le_zero.mp enough)
    exact before
  | succ steps ih =>
    cases taken with
    | nil => exact before
    | cons h rest =>
      have fewer : rest.length ≤ steps := Nat.le_of_succ_le_succ enough
      unfold Cache.releaseSteps
      cases refers : h.block with
      | none =>
        rw [releaseOne_null refers]
        exact ih (before.give_null refers) fewer
      | some id =>
        obtain ⟨e, dropped, after⟩ := before.dropRef listed refers (before.alive.trans alive)
        rw [releaseOne_left refers dropped]
        exact ih after fewer

theorem releaseAll (before : Taken c d taken) (listed : ∀ id ∈ c.order, 0 < c.refsAt id)
    (alive : c.open_ = true) : Unchanged c (d.releaseAll taken) :=
  (before.releaseSteps listed alive (Nat.le_add_right _ _)).unchanged

end Taken

end Cache

end TileEngine
