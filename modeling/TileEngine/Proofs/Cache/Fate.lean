import TileEngine.Proofs.Cache.Upkeep

/-!
The fate of payloads. A payload is there as long as somebody holds it, and with its last
holder it is reported destroyed. So at any time each payload that was ever made is either
there or was reported destroyed once, and nothing that a cache does breaks this account.
-/

namespace TileEngine

namespace Cache

/-- How often a payload was reported destroyed. -/
def reports (c : Cache) (p : PayloadId) : Nat := c.log.countP (·.destroyed? == some p)

/-- Each payload that was made is there or was reported destroyed once, and of no other
payload was anything reported. -/
def Accounted (c : Cache) : Prop :=
  ∀ p, c.reports p + (if c.holdersAt p = 0 then 0 else 1) = if p < c.cells.size then 1 else 0

/-- No payload is touched, none is reported destroyed, and the loaders stay. -/
structure Spares (c d : Cache) : Prop where
  cells : d.cells = c.cells
  reports : ∀ p, d.reports p = c.reports p
  loaders : d.loaders = c.loaders

variable {c d e : Cache} {id : BlockId} {p : PayloadId}

theorem reports_record (c : Cache) (event : Event) (p : PayloadId) :
    (c.record event).reports p = c.reports p + if event.destroyed? = some p then 1 else 0 := by
  rw [reports, record, Array.countP_push]
  simp [reports]

namespace Spares

theorem refl (c : Cache) : Spares c c := ⟨rfl, fun _ => rfl, rfl⟩

theorem trans (first : Spares c d) (second : Spares d e) : Spares c e :=
  ⟨second.cells.trans first.cells, fun p => (second.reports p).trans (first.reports p),
    second.loaders.trans first.loaders⟩

theorem record {event : Event} (plain : event.Plain) (c : Cache) : Spares c (c.record event) := by
  refine ⟨rfl, ?_, rfl⟩
  intro p
  have other : event.destroyed? ≠ some p := by simp [show event.destroyed? = none from plain]
  rw [reports_record, if_neg other, Nat.add_zero]

theorem recordAll {events : List Event} (plain : ∀ e ∈ events, e.Plain) (c : Cache) :
    Spares c (c.recordAll events) := by
  induction events generalizing c with
  | nil => exact refl c
  | cons event rest ih =>
    have first := record (plain event List.mem_cons_self) c
    exact first.trans (ih (fun e member => plain e (List.mem_cons_of_mem _ member)) _)

theorem retainBlock (c : Cache) (id : BlockId) : Spares c (c.retainBlock id) :=
  ⟨rfl, fun _ => rfl, rfl⟩

theorem lower (c : Cache) (id : BlockId) : Spares c (c.lower id) := ⟨rfl, fun _ => rfl, rfl⟩

theorem modifySlot (c : Cache) (id : BlockId) (f : Slot → Slot) : Spares c (c.modifySlot id f) :=
  ⟨rfl, fun _ => rfl, rfl⟩

theorem insert (c : Cache) (key : Key) (slot : Slot) : Spares c (c.insert key slot).1 := by
  have plain : (Event.created key).Plain := rfl
  have told := record plain c
  exact ⟨told.cells, told.reports, told.loaders⟩

theorem lazy (c : Cache) (key : Key) : Spares c (c.lazy key).1 := by
  change Spares c (c.acquire key).1
  unfold acquire
  split
  · have plain : (Event.known key).Plain := rfl
    exact (retainBlock c _).trans (record plain _)
  · exact insert c key Slot.fresh

theorem evict (c : Cache) (id : BlockId) (key : Key) : Spares c (c.evict id key) := by
  unfold Cache.evict
  split
  · have plain : (Event.unloading key).Plain := rfl
    have told := record plain c
    exact ⟨told.cells, told.reports, told.loaders⟩
  · have plain : (Event.lost key).Plain := rfl
    exact record plain c

theorem dismiss (c : Cache) (id : BlockId) : Spares c (c.dismiss id).1 := by
  unfold Cache.dismiss
  split
  · exact refl c
  · dsimp only
    split
    · exact evict c _ _
    · exact refl c

theorem dropRef (c : Cache) (id : BlockId) : Spares c (c.dropRef id).1 := by
  rw [dropRef_eq]
  split
  · exact (lower c id).trans (dismiss _ id)
  · exact lower c id

end Spares

namespace Accounted

theorem start (source : Source) (waitLimit : Option Duration) :
    (Cache.new source waitLimit).Accounted := by
  intro p
  simp [Cache.new, Cache.reports, holdersAt]

theorem of_same (account : c.Accounted) (cells : d.cells = c.cells)
    (reports : ∀ p, d.reports p = c.reports p) : d.Accounted := by
  intro p
  rw [reports p, holdersAt, cells]
  exact account p

theorem spared (account : c.Accounted) (spares : Spares c d) : d.Accounted :=
  account.of_same spares.cells spares.reports

/-- Of a payload that is not made yet nothing was reported. -/
theorem store (account : c.Accounted) (payload : Payload) : (c.store payload).1.Accounted := by
  intro p
  have before := account p
  have size : (c.store payload).1.cells.size = c.cells.size + 1 := Array.size_push _
  change c.reports p + _ = _
  rw [holdersAt_store, size]
  by_cases new : p = c.cells.size
  · rw [new, holdersAt_of_size_le (Nat.le_refl _), if_neg (Nat.lt_irrefl _)] at before
    rw [new]
    simp at before ⊢
    omega
  · rw [if_neg new, before]
    have earlier : p < c.cells.size + 1 ↔ p < c.cells.size := by
      change p ≠ c.cells.size at new
      constructor
      · intro lt
        exact Nat.lt_of_le_of_ne (Nat.le_of_lt_succ lt) new
      · exact Nat.lt_succ_of_lt
    simp only [earlier]

/-- The last holder takes the payload along, and that is reported. -/
theorem dropHolder (account : c.Accounted) (p : PayloadId) : (c.dropHolder p).1.Accounted := by
  cases found : c.cells[p]? with
  | none =>
    have unchanged : c.dropHolder p = (c, []) := by rw [Cache.dropHolder, found]
    rw [unchanged]
    exact account
  | some cell =>
    intro q
    have before := account q
    have holders := (dropHolder_effect c p).2 q
    have count : c.holdersAt p = cell.holders := by
      rw [holdersAt, found]
      rfl
    rw [holders]
    unfold Cache.dropHolder
    rw [found]
    dsimp only
    split
    · rename_i last
      rw [reports_record]
      change c.reports q + _ + _ = if q < (c.cells.modify p _).size then 1 else 0
      rw [Array.size_modify, ← before]
      by_cases same : q = p
      · rw [same, count, last]
        simp [Event.destroyed?]
      · simp [Event.destroyed?, same, Ne.symm same]
    · rename_i others
      change c.reports q + _ = if q < (c.cells.modify p _).size then 1 else 0
      rw [Array.size_modify, ← before]
      by_cases same : q = p
      · have still : cell.holders - 1 = 0 ↔ cell.holders = 0 := by omega
        rw [if_pos same, same, count]
        simp only [still]
      · rw [if_neg same]

/-- A further holder of a payload that is there changes nothing. -/
theorem hold (account : c.Accounted) (pos : 0 < c.holdersAt p) : (c.hold p).Accounted := by
  intro q
  have before := account q
  have size : (c.hold p).cells.size = c.cells.size := Array.size_modify
  change c.reports q + _ = _
  rw [(hold_effect pos).2 q, size, ← before]
  by_cases same : q = p
  · rw [if_pos same, same, if_neg (by omega), if_neg (by omega)]
  · rw [if_neg same]

/-- A value that is cached under a name is there, whether it finds a place or not. -/
theorem place (account : c.Accounted) (name : String) (payload : Payload) :
    (c.place name payload).1.Accounted := by
  have stored := account.store payload
  unfold Cache.place
  dsimp only
  split
  · rename_i id _
    have retained := stored.spared (.retainBlock _ id)
    refine retained.spared (.recordAll ?_ _)
    intro e member
    simp only [List.mem_cons, List.not_mem_nil, or_false] at member
    rcases member with rfl | rfl <;> rfl
  · exact stored.spared (.insert _ _ _)

/-! ## Giving back -/

theorem releaseOne (account : c.Accounted) (h : Handle) : (c.releaseOne h).1.Accounted := by
  cases refers : h.block with
  | none =>
    rw [releaseOne_null refers]
    exact account
  | some id =>
    have dropped := account.spared (.dropRef c id)
    rcases left : c.dropRef id with ⟨d, _ | p⟩
    · rw [left] at dropped
      rw [releaseOne_left refers left]
      exact dropped
    · rw [left] at dropped
      rw [releaseOne_destroyed refers left]
      exact dropped.dropHolder p

theorem releaseSteps (account : c.Accounted) (steps : Nat) (handles : List Handle) :
    (c.releaseSteps steps handles).Accounted := by
  induction steps generalizing c handles with
  | zero => exact account
  | succ steps ih =>
    cases handles with
    | nil => exact account
    | cons h rest => exact ih (account.releaseOne h) _

theorem releaseAll (account : c.Accounted) (handles : List Handle) :
    (c.releaseAll handles).Accounted :=
  account.releaseSteps _ handles

theorem unhold (account : c.Accounted) (p : PayloadId) : (c.unhold p).Accounted :=
  (account.dropHolder p).releaseAll _

theorem make (account : c.Accounted) (name : String) (payload : Payload) :
    (c.make name payload).1.Accounted := by
  have placed := account.place name payload
  unfold Cache.make
  rcases found : c.place name payload with ⟨d, h, _ | cell⟩
  · rw [found] at placed
    exact placed
  · rw [found] at placed
    exact placed.unhold cell

end Accounted

/-! ## Loading -/

/-- The account is right, and the loaders do not meddle with it. -/
structure Fair (c : Cache) : Prop where
  accounted : c.Accounted
  reports : ∀ l ∈ c.loaders, l.Reports Event.Plain

namespace Fair

theorem spared (fair : c.Fair) (spares : Spares c d) : d.Fair :=
  ⟨fair.accounted.spared spares, spares.loaders ▸ fair.reports⟩

theorem upheld : Upheld Event.Plain Fair := by
  refine ⟨?_, ?_, ?_, ?_, ?_, ?_, ?_⟩
  · intro e own
    cases e with
    | destroyed => contradiction
    | _ => rfl
  · exact fun c fair => fair.reports
  · exact fun c e fair plain => fair.spared (.record plain c)
  · exact fun c payload fair => ⟨fair.accounted.store payload, fair.reports⟩
  · exact fun c id f fair => fair.spared (.modifySlot c id f)
  · exact fun c key fair => fair.spared (.lazy c key)
  · intro c handles fair
    exact ⟨fair.accounted.releaseAll handles, (Calm.releaseAll c handles).loaders ▸ fair.reports⟩

end Fair

end Cache

end TileEngine
