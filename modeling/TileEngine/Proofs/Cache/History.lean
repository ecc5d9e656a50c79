import TileEngine.Proofs.Cache.Pool

/-!
What a cache was and what it becomes. Entries and payloads keep their numbers, an
entry that has left the list never comes back to it, an entry keeps the payload
that it has loaded, and a payload that comes into an entry was made for it.
-/

namespace TileEngine

namespace Cache

/-- One cache comes after another. -/
structure Later (c d : Cache) : Prop where
  blocks : c.blocks.size ≤ d.blocks.size
  cells : c.cells.size ≤ d.cells.size
  keys : ∀ id < c.blocks.size, d.key? id = c.key? id
  gone : ∀ id < c.blocks.size, id ∉ c.order → id ∉ d.order
  stays : ∀ id p, c.loaded? id = some p → d.loaded? id = some p
  fresh : ∀ id p, d.loaded? id = some p → c.loaded? id = some p ∨ c.cells.size ≤ p

namespace Later

variable {c d e : Cache}

theorem refl (c : Cache) : Later c c :=
  ⟨Nat.le_refl _, Nat.le_refl _, fun _ _ => rfl, fun _ _ gone => gone, fun _ _ loaded => loaded,
    fun _ _ loaded => .inl loaded⟩

theorem trans (first : Later c d) (second : Later d e) : Later c e := by
  refine ⟨Nat.le_trans first.blocks second.blocks, Nat.le_trans first.cells second.cells,
    ?_, ?_, ?_, ?_⟩
  · intro id made
    rw [second.keys id (Nat.lt_of_lt_of_le made first.blocks), first.keys id made]
  · intro id made gone
    exact second.gone id (Nat.lt_of_lt_of_le made first.blocks) (first.gone id made gone)
  · intro id p loaded
    exact second.stays id p (first.stays id p loaded)
  · intro id p loaded
    rcases second.fresh id p loaded with before | new
    · exact first.fresh id p before
    · exact .inr (Nat.le_trans first.cells new)

/-- Where the entries are the same, only the list and the payloads have to be compared. -/
theorem of_blocks (blocks : d.blocks = c.blocks) (cells : c.cells.size ≤ d.cells.size)
    (order : d.order ⊆ c.order) : Later c d := by
  have block? : d.block? = c.block? := by
    funext id
    rw [block?, block?, blocks]
  refine ⟨Nat.le_of_eq (congrArg Array.size blocks.symm), cells, ?_, ?_, ?_, ?_⟩
  · intro id _
    rw [key?, key?, block?]
  · intro id _ gone listed
    exact gone (order listed)
  · intro id p loaded
    rw [loaded?, block?]
    exact loaded
  · intro id p loaded
    rw [loaded?, block?] at loaded
    exact .inl loaded

theorem modifyBlock {f : Block → Block} (keys : ∀ b, (f b).key = b.key)
    (slots : ∀ b, (f b).slot = b.slot) (c : Cache) (id : BlockId) :
    Later c (c.modifyBlock id f) := by
  refine ⟨by simp [Cache.modifyBlock], Nat.le_refl _, ?_, fun _ _ gone => gone, ?_, ?_⟩
  · intro j _
    exact key?_modifyBlock keys id j
  · intro j p loaded
    rw [loaded?_modifyBlock slots]
    exact loaded
  · intro j p loaded
    rw [loaded?_modifyBlock slots] at loaded
    exact .inl loaded

theorem retainBlock (c : Cache) (id : BlockId) : Later c (c.retainBlock id) := by
  refine modifyBlock ?_ ?_ c id
  · exact fun _ => rfl
  · exact fun _ => rfl

theorem lower (c : Cache) (id : BlockId) : Later c (c.lower id) := by
  refine modifyBlock ?_ ?_ c id
  · exact fun _ => rfl
  · exact fun _ => rfl

/-- A new entry has a number of its own, and a payload of its own if any. -/
theorem insert {key : Key} {slot : Slot} (blocks : d.blocks = c.blocks) (order : d.order = c.order)
    (cells : c.cells.size ≤ d.cells.size)
    (new : ∀ p, slot.payload? = some p → c.cells.size ≤ p) : Later c (d.insert key slot).1 := by
  have step := of_blocks blocks cells fun _ listed => order ▸ listed
  have size : d.blocks.size = c.blocks.size := congrArg Array.size blocks
  refine ⟨?_, cells, ?_, ?_, ?_, ?_⟩
  · simp [Cache.insert, Cache.record, blocks]
  · intro id made
    have old : id ≠ d.blocks.size := Nat.ne_of_lt (size ▸ made)
    rw [key?_insert, if_neg old]
    exact step.keys id made
  · intro id made gone listed
    rcases List.mem_append.mp (show id ∈ d.order ++ [d.blocks.size] from listed) with old | new
    · exact gone (order ▸ old)
    · rw [List.mem_singleton.mp new, size] at made
      exact Nat.lt_irrefl _ made
  · intro id p loaded
    have made : id < c.blocks.size := by
      by_contra le
      rw [loaded?, block?_eq_none_of_size_le (Nat.le_of_not_lt le)] at loaded
      contradiction
    have old : id ≠ d.blocks.size := Nat.ne_of_lt (size ▸ made)
    rw [loaded?_insert, if_neg old]
    exact step.stays id p loaded
  · intro id p loaded
    rw [loaded?_insert] at loaded
    split at loaded
    · exact .inr (new p loaded)
    · exact step.fresh id p loaded

/-- A slot that had no payload gets none, or one of its own. -/
theorem modifySlot {f : Slot → Slot} {id : BlockId} {b : Block} (blocks : d.blocks = c.blocks)
    (order : d.order = c.order) (cells : c.cells.size ≤ d.cells.size)
    (found : c.block? id = some b) (unloaded : b.slot.payload? = none)
    (new : ∀ p, (f b.slot).payload? = some p → c.cells.size ≤ p) :
    Later c (d.modifySlot id f) := by
  have step := of_blocks blocks cells fun _ listed => order ▸ listed
  have found' : d.block? id = some b := by
    rw [block?, blocks]
    exact found
  refine ⟨?_, cells, ?_, ?_, ?_, ?_⟩
  · simp [Cache.modifySlot, Cache.modifyBlock, blocks]
  · intro j made
    rw [key?_modifySlot]
    exact step.keys j made
  · exact step.gone
  · intro j p loaded
    rw [loaded?_modifySlot found']
    split
    · rename_i same
      rw [same, loaded?, found, Option.bind_some, unloaded] at loaded
      contradiction
    · exact step.stays j p loaded
  · intro j p loaded
    rw [loaded?_modifySlot found'] at loaded
    split at loaded
    · exact .inr (new p loaded)
    · exact step.fresh j p loaded

theorem acquire (c : Cache) (key : Key) : Later c (c.acquire key).1 := by
  unfold Cache.acquire
  split
  · rename_i id _
    exact (retainBlock c id).trans (of_blocks rfl (Nat.le_refl _) (List.Subset.refl _))
  · refine insert rfl rfl (Nat.le_refl _) ?_
    intro p loaded
    contradiction

theorem place (c : Cache) (name : String) (payload : Payload) :
    Later c (c.place name payload).1 := by
  have grown : c.cells.size ≤ (c.store payload).1.cells.size := by simp [Cache.store]
  unfold Cache.place
  dsimp only
  split
  · rename_i id _
    have stored : Later c (c.store payload).1 := of_blocks rfl grown (List.Subset.refl _)
    exact (stored.trans (retainBlock _ id)).trans
      (of_blocks rfl (Nat.le_refl _) (List.Subset.refl _))
  · refine insert rfl rfl grown ?_
    intro p loaded
    exact Nat.le_of_eq (Option.some.inj loaded)

theorem fill {id : BlockId} {b : Block} (found : c.block? id = some b)
    (loading : b.slot.state = .loading) (payload : Payload) : Later c (c.fill id payload).1 := by
  have grown : c.cells.size ≤ (c.store payload).1.cells.size := by simp [Cache.store]
  have unloaded : b.slot.payload? = none := by rw [Slot.payload?, loading]
  refine modifySlot (f := (·.filled c.cells.size)) rfl rfl grown found unloaded ?_
  intro p loaded
  exact Nat.le_of_eq (Option.some.inj loaded)

theorem dismiss (c : Cache) (id : BlockId) : Later c (c.dismiss id).1 := by
  obtain ⟨blocks, cells, -, -⟩ := dismiss_frame c id
  refine of_blocks blocks (Nat.le_of_eq (congrArg Array.size cells.symm)) ?_
  unfold Cache.dismiss
  split
  · exact List.Subset.refl _
  · dsimp only
    split
    · rename_i b _ _
      by_cases listed : id ∈ c.order
      · obtain ⟨order, -⟩ := evict_listed listed b.key
        exact fun j hj => List.mem_of_mem_erase (order.mem_iff.mp hj)
      · have absent : c.order.findIdx? (· == id) = none := by
          rw [List.findIdx?_eq_none_iff]
          rintro j hj
          simpa using fun same : j = id => listed (same ▸ hj)
        rw [evict, absent]
        exact List.Subset.refl _
    · exact List.Subset.refl _

theorem dropHolder (c : Cache) (p : PayloadId) : Later c (c.dropHolder p).1 := by
  obtain ⟨blocks, order, -, -⟩ := dropHolder_frame c p
  refine of_blocks blocks ?_ fun _ listed => order ▸ listed
  unfold Cache.dropHolder
  split
  · exact Nat.le_refl _
  · dsimp only
    split
    · simp [Cache.record]
    · simp

end Later

end Cache

namespace Pool

variable {s t : Pool}

theorem Step.later (step : Step s t) : s.cache.Later t.cache := by
  cases step with
  | request key alive => exact Cache.Later.acquire _ key
  | place name payload alive own => exact Cache.Later.place _ name payload
  | clone h live =>
    cases refers : h.block with
    | none =>
      rw [Cache.retain, refers]
      exact Cache.Later.refl _
    | some id =>
      rw [Cache.retain, refers]
      exact Cache.Later.retainBlock _ id
  | null kind => exact Cache.Later.refl _
  | dropNull h mine null => exact Cache.Later.refl _
  | lower h id mine refers => exact Cache.Later.lower _ id
  | dismiss id => exact Cache.Later.dismiss _ id
  | unhold p mine => exact Cache.Later.dropHolder _ p
  | hold h id p live refers loaded =>
    exact Cache.Later.of_blocks rfl (by simp [Cache.hold]) (List.Subset.refl _)
  | claim h id b waiting live refers found claims =>
    have empty := (Slot.look_eq_claim_iff.mp claims).1
    refine Cache.Later.modifySlot rfl rfl (Nat.le_refl _) found (by rw [Slot.payload?, empty]) ?_
    intro p loaded
    contradiction
  | fill h id b payload live refers found loading own =>
    exact Cache.Later.fill found loading payload
  | abandon h id b live refers found loading =>
    refine Cache.Later.modifySlot rfl rfl (Nat.le_refl _) found (by rw [Slot.payload?, loading]) ?_
    intro p loaded
    contradiction
  | close => exact Cache.Later.of_blocks rfl (Nat.le_refl _) (List.nil_subset _)
  | aside c blocks order cells alive quiet =>
    exact Cache.Later.of_blocks blocks (Nat.le_of_eq (congrArg Array.size cells.symm))
      fun _ listed => order ▸ listed

theorem Run.later (run : Run s t) : s.cache.Later t.cache := by
  induction run with
  | refl => exact Cache.Later.refl _
  | tail _ last ih => exact ih.trans (Step.later last)

end Pool

end TileEngine
