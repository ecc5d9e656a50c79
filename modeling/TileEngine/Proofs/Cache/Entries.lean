import TileEngine.Cache.Load
import Mathlib.Data.List.Perm.Subperm
import Mathlib.Tactic.Common

/-!
What one operation does to entries and payloads. A cache is seen through a few
views: the key of an entry, the number of references to it, the payload that it
has loaded, the number of holders of a payload, and the lists of all handles
inside payloads and of all payloads inside entries. There is one lemma for each
view that an operation changes.
-/

namespace TileEngine

open scoped List

/-- One item of an array changes; up to order, so does its part of the joined list. -/
theorem flatMap_modify {α β : Type} {a : Array α} {i : Nat} {x : α} (f : α → List β) (g : α → α)
    (found : a[i]? = some x) :
    ∃ rest, a.toList.flatMap f ~ f x ++ rest ∧ (a.modify i g).toList.flatMap f ~ f (g x) ++ rest := by
  obtain ⟨bound, value⟩ := Array.getElem?_eq_some_iff.mp found
  have split : a.toList = a.toList.take i ++ x :: a.toList.drop (i + 1) := by
    rw [← value, ← Array.getElem_toList bound, ← List.drop_eq_getElem_cons (by simpa using bound),
      List.take_append_drop]
  refine ⟨(a.toList.take i).flatMap f ++ (a.toList.drop (i + 1)).flatMap f, ?_, ?_⟩
  · nth_rewrite 1 [split]
    rw [List.flatMap_append, List.flatMap_cons]
    exact List.perm_append_comm_assoc _ _ _
  · rw [Array.toList_modify, List.modify_eq_take_cons_drop (by simpa using bound),
      List.flatMap_append, List.flatMap_cons, Array.getElem_toList, value]
    exact List.perm_append_comm_assoc _ _ _

/-- The handles inside a payload, until it is destroyed. -/
def Cell.handles (cell : Cell) : List Handle :=
  if cell.holders = 0 then [] else cell.payload.handles

/-- The payload that an entry holds, as long as there are references to the entry. -/
def Block.held (b : Block) : List PayloadId :=
  if b.refs = 0 then [] else b.slot.payload?.toList

namespace Cache

/-! ## Views -/

/-- The key of an entry that was made. -/
def key? (c : Cache) (id : BlockId) : Option Key := (c.block? id).map Block.key

/-- The payload that an entry has loaded. -/
def loaded? (c : Cache) (id : BlockId) : Option PayloadId := (c.block? id).bind (·.slot.payload?)

/-- The number of references to an entry, zero for one that was never made. -/
def refsAt (c : Cache) (id : BlockId) : Nat := ((c.block? id).map Block.refs).getD 0

/-- The number of holders of a payload, zero for one that was never made. -/
def holdersAt (c : Cache) (p : PayloadId) : Nat := ((c.cells[p]?).map Cell.holders).getD 0

/-- The handles inside payloads. -/
def bound (c : Cache) : List Handle := c.cells.toList.flatMap Cell.handles

/-- The payloads inside entries. -/
def owned (c : Cache) : List PayloadId := c.blocks.toList.flatMap Block.held

variable {c : Cache} {id : BlockId}

theorem made_of_refsAt (pos : 0 < c.refsAt id) : ∃ b, c.block? id = some b ∧ c.refsAt id = b.refs := by
  unfold refsAt at pos ⊢
  cases found : c.block? id with
  | none => simp [found] at pos
  | some b => exact ⟨b, rfl, by simp⟩

theorem block?_eq_none_of_size_le (le : c.blocks.size ≤ id) : c.block? id = none :=
  Array.getElem?_eq_none_iff.mpr le

theorem block?_lt {b : Block} (found : c.block? id = some b) : id < c.blocks.size :=
  (Array.getElem?_eq_some_iff.mp found).1

theorem key?_eq_some_iff {key : Key} :
    c.key? id = some key ↔ ∃ b, c.block? id = some b ∧ b.key = key :=
  Option.map_eq_some_iff

theorem refsAt_of_size_le (le : c.blocks.size ≤ id) : c.refsAt id = 0 := by
  rw [refsAt, block?_eq_none_of_size_le le]
  rfl

/-- Putting events on record changes nothing else. -/
theorem recordAll_eq (c : Cache) (events : List Event) :
    c.recordAll events = { c with log := c.log ++ events.toArray } := by
  induction events generalizing c with
  | nil => simp [recordAll]
  | cons event rest ih =>
    rw [recordAll, List.foldl_cons]
    refine (ih (c.record event)).trans ?_
    simp [record]

/-! ## Entries -/

theorem block?_modifyBlock (c : Cache) (id : BlockId) (f : Block → Block) (j : BlockId) :
    (c.modifyBlock id f).block? j = if j = id then (c.block? j).map f else c.block? j := by
  unfold block? modifyBlock
  rw [Array.getElem?_modify]
  by_cases same : j = id
  · rw [if_pos same.symm, if_pos same]
  · rw [if_neg (Ne.symm same), if_neg same]

theorem key?_modifyBlock {f : Block → Block} (keeps : ∀ b, (f b).key = b.key) (id j : BlockId) :
    (c.modifyBlock id f).key? j = c.key? j := by
  rw [key?, key?, block?_modifyBlock]
  split
  · rw [Option.map_map]
    exact congrArg (Option.map · _) (funext keeps)
  · rfl

theorem loaded?_modifyBlock {f : Block → Block} (keeps : ∀ b, (f b).slot = b.slot)
    (id j : BlockId) : (c.modifyBlock id f).loaded? j = c.loaded? j := by
  rw [loaded?, loaded?, block?_modifyBlock]
  split
  · cases c.block? j with
    | none => rfl
    | some b => simp [keeps]
  · rfl

@[simp] theorem key?_retainBlock (c : Cache) (id j : BlockId) :
    (c.retainBlock id).key? j = c.key? j := by
  unfold retainBlock
  refine key?_modifyBlock ?_ id j
  exact fun _ => rfl

@[simp] theorem key?_lower (c : Cache) (id j : BlockId) : (c.lower id).key? j = c.key? j := by
  unfold lower
  refine key?_modifyBlock ?_ id j
  exact fun _ => rfl

@[simp] theorem key?_modifySlot (c : Cache) (id : BlockId) (f : Slot → Slot) (j : BlockId) :
    (c.modifySlot id f).key? j = c.key? j := by
  unfold modifySlot
  refine key?_modifyBlock ?_ id j
  exact fun _ => rfl

@[simp] theorem loaded?_retainBlock (c : Cache) (id j : BlockId) :
    (c.retainBlock id).loaded? j = c.loaded? j := by
  unfold retainBlock
  refine loaded?_modifyBlock ?_ id j
  exact fun _ => rfl

@[simp] theorem loaded?_lower (c : Cache) (id j : BlockId) : (c.lower id).loaded? j = c.loaded? j := by
  unfold lower
  refine loaded?_modifyBlock ?_ id j
  exact fun _ => rfl

theorem loaded?_modifySlot {b : Block} (found : c.block? id = some b) (f : Slot → Slot)
    (j : BlockId) :
    (c.modifySlot id f).loaded? j = if j = id then (f b.slot).payload? else c.loaded? j := by
  rw [loaded?, modifySlot, block?_modifyBlock]
  split
  · rename_i same
    rw [same, found]
    rfl
  · rfl

theorem refsAt_retainBlock (made : id < c.blocks.size) (j : BlockId) :
    (c.retainBlock id).refsAt j = if j = id then c.refsAt j + 1 else c.refsAt j := by
  rw [refsAt, refsAt, retainBlock, block?_modifyBlock]
  split
  · rename_i same
    rw [same, block?, Array.getElem?_eq_getElem made]
    rfl
  · rfl

theorem refsAt_lower (c : Cache) (id j : BlockId) :
    (c.lower id).refsAt j = if j = id then c.refsAt j - 1 else c.refsAt j := by
  rw [refsAt, refsAt, lower, block?_modifyBlock]
  split
  · cases c.block? j with
    | none => rfl
    | some b => rfl
  · rfl

theorem refsAt_modifySlot (c : Cache) (id : BlockId) (f : Slot → Slot) (j : BlockId) :
    (c.modifySlot id f).refsAt j = c.refsAt j := by
  rw [refsAt, refsAt, modifySlot, block?_modifyBlock]
  split
  · rw [Option.map_map]
    rfl
  · rfl

theorem block?_insert (c : Cache) (key : Key) (slot : Slot) (j : BlockId) :
    (c.insert key slot).1.block? j =
      if j = c.blocks.size then some ⟨key, 1, slot⟩ else c.block? j := by
  change (c.blocks.push _)[j]? = _
  rw [Array.getElem?_push]
  rfl

theorem key?_insert (c : Cache) (key : Key) (slot : Slot) (j : BlockId) :
    (c.insert key slot).1.key? j = if j = c.blocks.size then some key else c.key? j := by
  rw [key?, key?, block?_insert]
  split <;> rfl

theorem refsAt_insert (c : Cache) (key : Key) (slot : Slot) (j : BlockId) :
    (c.insert key slot).1.refsAt j = if j = c.blocks.size then 1 else c.refsAt j := by
  rw [refsAt, refsAt, block?_insert]
  split <;> rfl

theorem loaded?_insert (c : Cache) (key : Key) (slot : Slot) (j : BlockId) :
    (c.insert key slot).1.loaded? j = if j = c.blocks.size then slot.payload? else c.loaded? j := by
  rw [loaded?, loaded?, block?_insert]
  split <;> rfl

theorem lt_size_of_refsAt (pos : 0 < c.refsAt id) : id < c.blocks.size := by
  obtain ⟨b, found, -⟩ := made_of_refsAt pos
  exact block?_lt found

theorem owned_modifyBlock {b : Block} (found : c.block? id = some b) (f : Block → Block) :
    ∃ rest, c.owned ~ b.held ++ rest ∧ (c.modifyBlock id f).owned ~ (f b).held ++ rest :=
  flatMap_modify Block.held f found

theorem mem_owned (pos : 0 < c.refsAt id) {p : PayloadId} (loaded : c.loaded? id = some p) :
    p ∈ c.owned := by
  obtain ⟨b, found, refs⟩ := made_of_refsAt pos
  rw [loaded?, found, Option.bind_some] at loaded
  refine List.mem_flatMap.mpr ⟨b, Array.mem_toList_iff.mpr (Array.mem_of_getElem? found), ?_⟩
  rw [Block.held, if_neg (by omega), loaded]
  exact List.mem_singleton.mpr rfl

theorem owned_insert (c : Cache) (key : Key) (slot : Slot) :
    (c.insert key slot).1.owned = c.owned ++ slot.payload?.toList := by
  change (c.blocks.push ⟨key, 1, slot⟩).toList.flatMap Block.held = _
  rw [Array.toList_push, List.flatMap_append, List.flatMap_singleton]
  rfl

/-! ## Payloads -/

theorem bound_store (c : Cache) (payload : Payload) :
    (c.store payload).1.bound = c.bound ++ payload.handles := by
  change (c.cells.push ⟨payload, 1⟩).toList.flatMap Cell.handles = _
  rw [Array.toList_push, List.flatMap_append, List.flatMap_singleton]
  rfl

theorem holdersAt_store (c : Cache) (payload : Payload) (p : PayloadId) :
    (c.store payload).1.holdersAt p = if p = c.cells.size then 1 else c.holdersAt p := by
  change (((c.cells.push ⟨payload, 1⟩)[p]?).map Cell.holders).getD 0 = _
  rw [Array.getElem?_push]
  split
  · rfl
  · rfl

theorem holdersAt_of_size_le {p : PayloadId} (le : c.cells.size ≤ p) : c.holdersAt p = 0 := by
  rw [holdersAt, Array.getElem?_eq_none_iff.mpr le]
  rfl

theorem held_of_holdersAt {p : PayloadId} (pos : 0 < c.holdersAt p) :
    ∃ cell, c.cells[p]? = some cell ∧ c.holdersAt p = cell.holders := by
  unfold holdersAt at pos ⊢
  cases found : c.cells[p]? with
  | none => simp [found] at pos
  | some cell => exact ⟨cell, rfl, by simp⟩

/-- A further holder of a payload that has one. -/
theorem hold_effect {p : PayloadId} (pos : 0 < c.holdersAt p) :
    (c.hold p).bound ~ c.bound ∧
      ∀ q, (c.hold p).holdersAt q = if q = p then c.holdersAt q + 1 else c.holdersAt q := by
  obtain ⟨cell, found, count⟩ := held_of_holdersAt pos
  obtain ⟨rest, before, after⟩ := flatMap_modify Cell.handles
    (fun cell => { cell with holders := cell.holders + 1 }) found
  refine ⟨?_, ?_⟩
  · have same : Cell.handles { cell with holders := cell.holders + 1 } = cell.handles := by
      simp only [Cell.handles, Nat.add_one_ne_zero, if_false]
      rw [if_neg (by omega)]
    rw [same] at after
    exact after.trans before.symm
  · intro q
    change (((c.cells.modify p _)[q]?).map Cell.holders).getD 0 = _
    rw [Array.getElem?_modify, holdersAt]
    by_cases same : q = p
    · rw [if_pos same.symm, if_pos same, same, found]
      rfl
    · rw [if_neg (Ne.symm same), if_neg same]

/-- One holder less. The handles of a payload that is destroyed come out; nothing is
lost. -/
theorem dropHolder_effect (c : Cache) (p : PayloadId) :
    c.bound ~ (c.dropHolder p).2 ++ (c.dropHolder p).1.bound ∧
      ∀ q, (c.dropHolder p).1.holdersAt q =
        if q = p then c.holdersAt q - 1 else c.holdersAt q := by
  cases found : c.cells[p]? with
  | none =>
    have unchanged : c.dropHolder p = (c, []) := by rw [dropHolder, found]
    rw [unchanged]
    refine ⟨List.Perm.refl _, ?_⟩
    intro q
    split
    · rename_i same
      rw [same, holdersAt, found]
      rfl
    · rfl
  | some cell =>
    unfold dropHolder
    rw [found]
    obtain ⟨rest, before, after⟩ := flatMap_modify Cell.handles
      (fun cell => { cell with holders := cell.holders - 1 }) found
    have holders (q : PayloadId) :
        (((c.cells.modify p fun cell => { cell with holders := cell.holders - 1 })[q]?).map
          Cell.holders).getD 0 = if q = p then c.holdersAt q - 1 else c.holdersAt q := by
      rw [Array.getElem?_modify, holdersAt]
      by_cases same : q = p
      · rw [if_pos same.symm, if_pos same, same, found]
        rfl
      · rw [if_neg (Ne.symm same), if_neg same]
    dsimp only
    split
    · rename_i last
      refine ⟨?_, holders⟩
      have out : cell.handles = cell.payload.handles := by
        rw [Cell.handles, last, if_neg (by decide)]
      have gone : Cell.handles { cell with holders := cell.holders - 1 } = [] := by
        rw [Cell.handles, last, if_pos rfl]
      rw [gone] at after
      rw [out] at before
      exact before.trans (after.symm.append_left _)
    · rename_i others
      refine ⟨?_, holders⟩
      have same : Cell.handles { cell with holders := cell.holders - 1 } = cell.handles := by
        rw [Cell.handles, Cell.handles]
        exact if_congr (by dsimp only; omega) rfl rfl
      rw [same] at after
      exact before.trans after.symm

theorem dropHolder_frame (c : Cache) (p : PayloadId) :
    (c.dropHolder p).1.blocks = c.blocks ∧ (c.dropHolder p).1.order = c.order ∧
      (c.dropHolder p).1.open_ = c.open_ ∧
      ∀ key, .lost key ∈ (c.dropHolder p).1.log → .lost key ∈ c.log := by
  unfold dropHolder
  split
  · exact ⟨rfl, rfl, rfl, fun _ lost => lost⟩
  · dsimp only
    split
    · exact ⟨rfl, rfl, rfl, fun _ lost => by simpa [record] using lost⟩
    · exact ⟨rfl, rfl, rfl, fun _ lost => lost⟩

/-! ## The list of cached entries -/

theorem find?_eq_some {key : Key} (found : c.find? key = some id) :
    id ∈ c.order ∧ c.key? id = some key := by
  refine ⟨List.mem_of_find?_eq_some found, ?_⟩
  have has := List.find?_some found
  unfold hasKey at has
  split at has
  · rename_i b made
    exact key?_eq_some_iff.mpr ⟨b, made, by simpa using has⟩
  · contradiction

theorem find?_eq_none {key : Key} (absent : c.find? key = none) (listed : id ∈ c.order) :
    c.key? id ≠ some key := by
  intro has
  obtain ⟨b, made, same⟩ := key?_eq_some_iff.mp has
  have not_has := List.find?_eq_none.mp absent id listed
  rw [hasKey, made] at not_has
  simp [same] at not_has

/-- The handle that is asked for by a key refers to an entry of that key. -/
theorem key?_lazy (c : Cache) (key : Key) :
    ∃ id, (c.lazy key).2.block = some id ∧ (c.lazy key).1.key? id = some key := by
  unfold lazy acquire
  cases found : c.find? key with
  | some id => exact ⟨id, rfl, (key?_retainBlock c id id).trans (find?_eq_some found).2⟩
  | none =>
    refine ⟨c.blocks.size, rfl, ?_⟩
    refine (key?_insert c key Slot.fresh _).trans ?_
    exact if_pos rfl

/-- The last item takes the place of the one that is removed. -/
theorem swapRemove_perm {ids : List BlockId} {i : Nat} (bound : i < ids.length) :
    swapRemove ids i ~ ids.eraseIdx i := by
  obtain ⟨front, last, rfl⟩ := (List.eq_nil_or_concat ids).resolve_left (by
    rintro rfl
    simp at bound)
  rw [List.concat_eq_append] at bound ⊢
  rw [List.length_append, List.length_singleton] at bound
  unfold swapRemove
  rw [List.getLast?_append, List.getLast?_singleton]
  dsimp only [Option.or]
  rcases Nat.lt_or_ge i front.length with inner | outer
  · rw [List.set_append_left _ _ inner, List.dropLast_concat, List.eraseIdx_append_of_lt_length inner]
    rw [List.set_eq_take_append_cons_drop, if_pos inner, List.eraseIdx_eq_take_drop_succ,
      List.append_assoc]
    exact (@List.perm_append_comm _ [last] _).append_left _
  · have at_end : i = front.length := by omega
    subst at_end
    rw [List.set_append_right _ _ (Nat.le_refl _), Nat.sub_self]
    simp [List.eraseIdx_append_of_length_le]

/-- A listed entry is found and taken off the list. -/
theorem evict_listed (listed : id ∈ c.order) (key : Key) :
    (c.evict id key).order ~ c.order.erase id ∧
      (c.evict id key).log = c.log.push (.unloading key) := by
  have found : c.order.findIdx? (· == id) = some (c.order.idxOf id) :=
    List.findIdx?_eq_some_of_exists ⟨id, listed, beq_self_eq_true id⟩
  unfold evict
  rw [found]
  refine ⟨?_, rfl⟩
  rw [List.erase_eq_eraseIdx_of_idxOf rfl]
  exact swapRemove_perm (List.idxOf_lt_length_of_mem listed)

theorem evict_frame (c : Cache) (id : BlockId) (key : Key) :
    (c.evict id key).blocks = c.blocks ∧ (c.evict id key).cells = c.cells ∧
      (c.evict id key).open_ = c.open_ := by
  unfold evict
  split
  · exact ⟨rfl, rfl, rfl⟩
  · exact ⟨rfl, rfl, rfl⟩

theorem dismiss_frame (c : Cache) (id : BlockId) :
    (c.dismiss id).1.blocks = c.blocks ∧ (c.dismiss id).1.cells = c.cells ∧
      (c.dismiss id).1.open_ = c.open_ ∧ (c.dismiss id).2 = c.loaded? id := by
  unfold dismiss loaded?
  cases c.block? id with
  | none => exact ⟨rfl, rfl, rfl, rfl⟩
  | some b =>
    obtain ⟨blocks, cells, alive⟩ := evict_frame c id b.key
    dsimp only
    split
    · exact ⟨blocks, cells, alive, rfl⟩
    · exact ⟨rfl, rfl, rfl, rfl⟩

/-- An entry that a cache lists leaves an open one without a complaint. -/
theorem dismiss_listed (opened : c.open_ = true) (made : id < c.blocks.size)
    (listed : id ∈ c.order) :
    (c.dismiss id).1.order ~ c.order.erase id ∧
      ∀ key, .lost key ∈ (c.dismiss id).1.log → .lost key ∈ c.log := by
  have found : c.block? id = some c.blocks[id] := Array.getElem?_eq_getElem made
  obtain ⟨order, log⟩ := evict_listed listed c.blocks[id].key
  unfold dismiss
  rw [found]
  dsimp only
  rw [if_pos opened]
  refine ⟨order, ?_⟩
  intro key lost
  rw [log] at lost
  simpa using lost

theorem dismiss_closed (closed : c.open_ = false) (id : BlockId) : (c.dismiss id).1 = c := by
  unfold dismiss
  cases c.block? id with
  | none => rfl
  | some b => simp [closed]

end Cache

end TileEngine
