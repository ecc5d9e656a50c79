import TileEngine.Proofs.Cache.Upkeep

/-!
Payloads are told how much time has passed. At any time each payload is in one entry at most, so
nobody is told twice who is told once for each cached entry. No other call tells anybody the time.
-/

namespace TileEngine

open scoped List

/-- Who is told of which span of time. -/
def Event.told? : Event → Option (PayloadId × Duration)
  | .ticked p _ delta => some (p, delta)
  | _ => none

/-- An event that tells nobody the time. -/
def Event.Silent (e : Event) : Prop := e.told? = none

namespace Cache

/-- What payloads were told so far. -/
def told (c : Cache) : List (PayloadId × Duration) := c.log.toList.filterMap Event.told?

/-- The spans of time that a payload was told of. -/
def heard (c : Cache) (p : PayloadId) : List Duration :=
  (c.told.filter (·.1 == p)).map Prod.snd

/-- The payloads of the cached entries that are loaded, in cache order. -/
def present (c : Cache) : List PayloadId := c.order.filterMap c.loaded?

/-- Each payload is in one entry at most, and was made. -/
structure Apart (c : Cache) : Prop where
  made : ∀ id p, c.loaded? id = some p → p < c.cells.size
  one : ∀ i j p, c.loaded? i = some p → c.loaded? j = some p → i = j

variable {c d : Cache} {id : BlockId} {p : PayloadId}

/-! ## Telling -/

theorem mem_present_iff :
    p ∈ c.present ↔ ∃ id ∈ c.order, ∃ b, c.block? id = some b ∧ b.slot.state = .loaded p := by
  refine List.mem_filterMap.trans (exists_congr fun id => and_congr_right fun _ => ?_)
  refine Option.bind_eq_some_iff.trans (exists_congr fun b => and_congr_right fun _ => ?_)
  unfold Slot.payload?
  cases b.slot.state <;> simp

theorem told_recordAll (c : Cache) (events : List Event) :
    (c.recordAll events).told = c.told ++ events.filterMap Event.told? := by
  rw [recordAll_eq, told, Array.toList_append, List.filterMap_append]
  rfl

theorem told_record (c : Cache) (event : Event) :
    (c.record event).told = c.told ++ event.told?.toList := by
  refine (told_recordAll c [event]).trans ?_
  cases told : event.told? <;> simp [told]

/-- All payloads of loaded entries are told in one go, each once for its entry. -/
theorem told_tick (c : Cache) (delta : Duration) :
    (c.tick delta).told = c.told ++ c.present.map (·, delta) := by
  unfold tick
  rw [told_recordAll, List.filterMap_map]
  exact congrArg (c.told ++ ·) (congrFun List.filterMap_eq_map c.present)

theorem heard_of_told {more : List (PayloadId × Duration)} (told : d.told = c.told ++ more)
    (p : PayloadId) : d.heard p = c.heard p ++ (more.filter (·.1 == p)).map Prod.snd := by
  rw [heard, told, List.filter_append, List.map_append]
  rfl

/-- Nobody is told twice. -/
theorem nodup_present (apart : c.Apart) (nodup : c.order.Nodup) : c.present.Nodup := by
  refine List.Pairwise.filterMap c.loaded? ?_ nodup
  intro i j different p here q there same
  subst same
  exact different (apart.one i j p here there)

/-- Of what is told to different payloads each hears its own. -/
theorem heard_once {payloads : List PayloadId} (nodup : payloads.Nodup) (delta : Duration)
    (p : PayloadId) :
    ((payloads.map (·, delta)).filter (·.1 == p)).map Prod.snd =
      if p ∈ payloads then [delta] else [] := by
  induction payloads with
  | nil => rfl
  | cons q rest ih =>
    obtain ⟨other, nodup'⟩ := List.nodup_cons.mp nodup
    have tail := ih nodup'
    by_cases same : q = p
    · subst same
      rw [if_neg other] at tail
      simp [tail]
    · simp [same, Ne.symm same, tail]

/-! ## Other events -/

theorem told_of_silent (c : Cache) {event : Event} (silent : event.Silent) :
    (c.record event).told = c.told := by
  rw [told_record, show event.told? = none from silent]
  exact List.append_nil _

theorem told_insert (c : Cache) (key : Key) (slot : Slot) : (c.insert key slot).1.told = c.told :=
  told_of_silent c rfl

theorem told_lazy (c : Cache) (key : Key) : (c.lazy key).1.told = c.told := by
  change (c.acquire key).1.told = c.told
  unfold acquire
  split
  · rename_i id _
    exact told_of_silent (c.retainBlock id) rfl
  · exact told_insert c key Slot.fresh

theorem told_place (c : Cache) (name : String) (payload : Payload) :
    (c.place name payload).1.told = c.told := by
  unfold place
  dsimp only
  split
  · exact (told_recordAll _ _).trans (List.append_nil _)
  · exact told_insert _ _ _

theorem told_dismiss (c : Cache) (id : BlockId) : (c.dismiss id).1.told = c.told := by
  unfold dismiss
  split
  · rfl
  · dsimp only
    split
    · unfold evict
      split
      · exact told_of_silent c rfl
      · exact told_of_silent c rfl
    · rfl

theorem told_dropHolder (c : Cache) (p : PayloadId) : (c.dropHolder p).1.told = c.told := by
  unfold dropHolder
  split
  · rfl
  · dsimp only
    split
    · exact told_of_silent _ rfl
    · rfl

theorem told_dropRef (c : Cache) (id : BlockId) : (c.dropRef id).1.told = c.told := by
  rw [dropRef_eq]
  split
  · exact told_dismiss (c.lower id) id
  · rfl

theorem told_releaseOne (c : Cache) (h : Handle) : (c.releaseOne h).1.told = c.told := by
  cases refers : h.block with
  | none => rw [releaseOne_null refers]
  | some id =>
    have dropped := told_dropRef c id
    rcases left : c.dropRef id with ⟨d, _ | p⟩
    · rw [left] at dropped
      rw [releaseOne_left refers left]
      exact dropped
    · rw [left] at dropped
      rw [releaseOne_destroyed refers left]
      exact (told_dropHolder d p).trans dropped

theorem told_releaseAll (c : Cache) (handles : List Handle) :
    (c.releaseAll handles).told = c.told := by
  unfold releaseAll
  generalize handles.length + c.handleCount = steps
  induction steps generalizing c handles with
  | zero => rfl
  | succ steps ih =>
    cases handles with
    | nil => rfl
    | cons h rest => exact (ih _ _).trans (told_releaseOne c h)

/-- With loaders that tell nobody the time, no call does that loads. -/
theorem upheld_told (told : List (PayloadId × Duration)) :
    Upheld Event.Silent fun c => c.told = told ∧ ∀ l ∈ c.loaders, l.Reports Event.Silent := by
  refine ⟨?_, ?_, ?_, ?_, ?_, ?_, ?_⟩
  · intro e own
    cases e with
    | ticked => contradiction
    | _ => rfl
  · exact fun c holds => holds.2
  · exact fun c e holds silent => ⟨(told_of_silent c silent).trans holds.1, holds.2⟩
  · exact fun c payload holds => holds
  · exact fun c id f holds => holds
  · intro c key holds
    exact ⟨(told_lazy c key).trans holds.1, (Calm.lazy c key).loaders ▸ holds.2⟩
  · intro c handles holds
    exact ⟨(told_releaseAll c handles).trans holds.1, (Calm.releaseAll c handles).loaders ▸ holds.2⟩

/-! ## One entry for each payload -/

namespace Apart

theorem new (source : Source) (waitLimit : Option Duration) : (Cache.new source waitLimit).Apart := by
  have nothing (id : BlockId) : (Cache.new source waitLimit).loaded? id = none := by
    simp [Cache.new, loaded?, block?]
  refine ⟨?_, ?_⟩
  · intro id p loaded
    rw [nothing] at loaded
    contradiction
  · intro i j p loaded
    rw [nothing] at loaded
    contradiction

theorem of_same (apart : c.Apart) (cells : c.cells.size ≤ d.cells.size)
    (same : ∀ id, d.loaded? id = c.loaded? id) : d.Apart := by
  refine ⟨?_, ?_⟩
  · intro id p loaded
    rw [same] at loaded
    exact Nat.lt_of_lt_of_le (apart.made id p loaded) cells
  · intro i j p here there
    rw [same] at here there
    exact apart.one i j p here there

theorem of_blocks (apart : c.Apart) (cells : c.cells.size ≤ d.cells.size)
    (blocks : d.blocks = c.blocks) : d.Apart := by
  refine apart.of_same cells fun id => ?_
  rw [loaded?, block?, blocks]
  rfl

/-- A payload that has just been made comes into one entry. -/
theorem gain (apart : c.Apart) (cells : c.cells.size < d.cells.size)
    (gains : ∀ j, d.loaded? j = if j = id then some c.cells.size else c.loaded? j) : d.Apart := by
  have old {j : BlockId} {p : PayloadId} (loaded : c.loaded? j = some p) : p ≠ c.cells.size :=
    Nat.ne_of_lt (apart.made j p loaded)
  refine ⟨?_, ?_⟩
  · intro j p loaded
    rw [gains] at loaded
    split at loaded
    · rw [← Option.some.inj loaded]
      exact cells
    · exact Nat.lt_trans (apart.made j p loaded) cells
  · intro i j p here there
    rw [gains] at here there
    split at here <;> split at there
    · rename_i first second
      exact first.trans second.symm
    · exact absurd (Option.some.inj here).symm (old there)
    · exact absurd (Option.some.inj there).symm (old here)
    · exact apart.one i j p here there

theorem modifySlot (apart : c.Apart) {b : Block} (found : c.block? id = some b) (f : Slot → Slot)
    (keeps : (f b.slot).payload? = b.slot.payload?) : (c.modifySlot id f).Apart := by
  refine apart.of_same (Nat.le_refl _) fun j => ?_
  rw [loaded?_modifySlot found]
  split
  · rename_i same
    rw [keeps, same, loaded?, found]
    rfl
  · rfl

theorem insert (apart : c.Apart) (key : Key) : (c.insert key Slot.fresh).1.Apart := by
  refine apart.of_same (Nat.le_refl _) fun j => ?_
  rw [loaded?_insert]
  split
  · rename_i new
    rw [loaded?, block?_eq_none_of_size_le (Nat.le_of_eq new.symm)]
    rfl
  · rfl

theorem acquire (apart : c.Apart) (key : Key) : (c.acquire key).1.Apart := by
  unfold Cache.acquire
  split
  · rename_i id _
    exact apart.of_same (Nat.le_refl _) (loaded?_retainBlock c id)
  · exact apart.insert key

theorem place (apart : c.Apart) (name : String) (payload : Payload) :
    (c.place name payload).1.Apart := by
  have grown : c.cells.size < (c.store payload).1.cells.size := by simp [Cache.store]
  unfold Cache.place
  dsimp only
  split
  · rename_i id _
    have stored : (c.store payload).1.Apart := apart.of_blocks (Nat.le_of_lt grown) rfl
    exact stored.of_same (Nat.le_refl _) (loaded?_retainBlock (c.store payload).1 id)
  · exact apart.gain grown (loaded?_insert (c.store payload).1 _ (Slot.preset c.cells.size))

theorem fill (apart : c.Apart) {b : Block} (found : c.block? id = some b) (payload : Payload) :
    (c.fill id payload).1.Apart := by
  have grown : c.cells.size < (c.store payload).1.cells.size := by simp [Cache.store]
  exact apart.gain grown
    (loaded?_modifySlot (c := (c.store payload).1) found (·.filled c.cells.size))

end Apart

end Cache

namespace Pool

variable {s t : Pool}

theorem Step.apart (step : Step s t) (apart : s.cache.Apart) : t.cache.Apart := by
  cases step with
  | request key alive => exact apart.acquire key
  | place name payload alive own => exact apart.place name payload
  | clone h live =>
    cases refers : h.block with
    | none =>
      rw [Cache.retain, refers]
      exact apart
    | some id =>
      rw [Cache.retain, refers]
      exact apart.of_same (Nat.le_refl _) (Cache.loaded?_retainBlock _ id)
  | null kind => exact apart
  | dropNull h mine null => exact apart
  | lower h id mine refers => exact apart.of_same (Nat.le_refl _) (Cache.loaded?_lower _ id)
  | @dismiss c out kept id =>
    obtain ⟨blocks, cells, -, -⟩ := c.dismiss_frame id
    exact apart.of_blocks (Nat.le_of_eq (congrArg Array.size cells.symm)) blocks
  | unhold p mine =>
    exact apart.of_blocks (Cache.Later.dropHolder s.cache p).cells (s.cache.dropHolder_frame p).1
  | hold h id p live refers loaded => exact apart.of_blocks (by simp [Cache.hold]) rfl
  | claim h id b waiting live refers found claims =>
    refine apart.modifySlot found Slot.claimed ?_
    rw [Slot.payload?, Slot.payload?, (Slot.look_eq_claim_iff.mp claims).1]
    rfl
  | fill h id b payload live refers found loading own => exact apart.fill found payload
  | abandon h id b live refers found loading =>
    refine apart.modifySlot found Slot.failed ?_
    rw [Slot.payload?, Slot.payload?, loading]
    rfl
  | close => exact apart.of_blocks (Nat.le_refl _) rfl
  | aside c blocks order cells alive quiet =>
    exact apart.of_blocks (Nat.le_of_eq (congrArg Array.size cells.symm)) blocks

theorem Run.apart (run : Run s t) (apart : s.cache.Apart) : t.cache.Apart := by
  induction run with
  | refl => exact apart
  | tail _ last ih => exact Step.apart last ih

/-- No effect tells anybody the time, except that one which touches neither entries nor payloads
could put anything on record. -/
theorem Step.silent (step : Step s t) :
    t.cache.told = s.cache.told ∨ t.cache.blocks = s.cache.blocks ∧ t.cache.order = s.cache.order ∧
      t.cache.cells = s.cache.cells := by
  cases step with
  | request key alive => exact .inl (Cache.told_lazy _ key)
  | place name payload alive own => exact .inl (Cache.told_place _ name payload)
  | clone h live =>
    refine .inl ?_
    dsimp only
    unfold Cache.retain
    split <;> rfl
  | null kind => exact .inl rfl
  | dropNull h mine null => exact .inl rfl
  | lower h id mine refers => exact .inl rfl
  | dismiss id => exact .inl (Cache.told_dismiss _ id)
  | unhold p mine => exact .inl (Cache.told_dropHolder _ p)
  | hold h id p live refers loaded => exact .inl rfl
  | claim h id b waiting live refers found claims => exact .inl rfl
  | fill h id b payload live refers found loading own => exact .inl rfl
  | abandon h id b live refers found loading => exact .inl rfl
  | close => exact .inl rfl
  | aside c blocks order cells alive quiet => exact .inr ⟨blocks, order, cells⟩

end Pool

end TileEngine
