import TileEngine.Proofs.Cache.Fate
import TileEngine.Proofs.Cache.Nested
import Mathlib.Data.Fintype.EquivFin

/-!
Nothing leaks, and nothing is destroyed twice. Payloads hold handles to entries, and
entries hold payloads. Where no payload is held by what it holds itself, and nobody
outside refers to anything any more, every payload that was ever made is gone: one that
were still there would have a holder that is a payload as well, and so on without end.
-/

namespace TileEngine

open scoped List

/-- A handle inside a payload is inside one that is there. -/
theorem Cache.holder_of_bound {c : Cache} {h : Handle} (bound : h ∈ c.bound) :
    ∃ p cell, c.cells[p]? = some cell ∧ h ∈ cell.handles ∧ 0 < c.holdersAt p := by
  obtain ⟨cell, member, inside⟩ := List.mem_flatMap.mp bound
  obtain ⟨p, here⟩ := List.mem_iff_getElem?.mp member
  rw [Array.getElem?_toList] at here
  refine ⟨p, cell, here, inside, Nat.pos_of_ne_zero ?_⟩
  intro gone
  rw [Cache.holdersAt, here] at gone
  have zero : cell.holders = 0 := gone
  rw [Cell.handles, if_pos zero] at inside
  exact List.not_mem_nil inside

namespace Pool

/-- One payload has a handle to the entry of another one. A payload that was destroyed
has no handles. -/
def Holds (s : Pool) (p q : PayloadId) : Prop :=
  ∃ cell, s.cache.cells[p]? = some cell ∧
    ∃ h ∈ cell.handles, ∃ id, h.block = some id ∧ s.cache.loaded? id = some q

/-- No payload is held by what it holds itself. -/
def Acyclic (s : Pool) : Prop := ∀ p, ¬Relation.TransGen s.Holds p p

/-- Nobody outside payloads refers to an entry or holds a payload. -/
structure Deserted (s : Pool) : Prop where
  null : ∀ h ∈ s.out, h.block = none
  kept : s.kept = []
  leaving : s.leaving = none

/-- Nothing is reported destroyed while all payloads stay as they are. -/
def Candid (s t : Pool) : Prop :=
  t.cache.cells = s.cache.cells → ∀ p, t.cache.reports p = s.cache.reports p

/-- What one caller does at a time: one effect, or a whole call that comes back. The
loaders that a call may run have to be honest, and to report no payload destroyed. -/
inductive Act : Pool → Pool → Prop
  | effect {s t : Pool} (step : Step s t) (candid : Candid s t) : Act s t
  /-- A key is loaded. -/
  | load {c : Cache} {out : List Handle} {kept : List PayloadId} (key : Key)
      (alive : c.open_ = true) (fit : ∀ l ∈ c.loaders, l.Honest ∧ l.Reports Event.Plain)
      (back : (c.load key).2 ≠ .error .stuck) :
      Act ⟨c, out, kept, none⟩
        ⟨(c.load key).1, (c.load key).2.toOption.toList ++ out, kept, none⟩
  /-- The resource of a handle is got, and loaded if need be. -/
  | get {c : Cache} {out : List Handle} {kept : List PayloadId} (h : Handle)
      (relies : Relies ⟨c, out, kept, none⟩ h) (fit : ∀ l ∈ c.loaders, l.Honest ∧ l.Reports Event.Plain)
      (back : (c.get h).2 ≠ .error .stuck) :
      Act ⟨c, out, kept, none⟩ ⟨(c.get h).1, out, kept, none⟩
  /-- A value is made, and destroyed if there is an entry of its name already. -/
  | make {c : Cache} {out : List Handle} {kept : List PayloadId} (name : String)
      (payload : Payload) (alive : c.open_ = true) (own : payload.handles <+~ out) :
      Act ⟨c, out, kept, none⟩
        ⟨(c.make name payload).1, (c.make name payload).2 :: out.diff payload.handles, kept, none⟩
  /-- A handle is dropped, and so are those of all payloads that are destroyed. -/
  | release {c : Cache} {out : List Handle} {kept : List PayloadId} (h : Handle) (mine : h ∈ out) :
      Act ⟨c, out, kept, none⟩ ⟨c.release h, out.erase h, kept, none⟩
  /-- A payload that was held apart is given up. -/
  | unhold {c : Cache} {out : List Handle} {kept : List PayloadId} (p : PayloadId)
      (mine : p ∈ kept) :
      Act ⟨c, out, kept, none⟩ ⟨c.unhold p, out, kept.erase p, none⟩

/-- Any number of acts, of any number of callers. -/
abbrev Course : Pool → Pool → Prop := Relation.ReflTransGen Act

variable {s t : Pool}

/-! ## The account of payloads -/

/-- All effects are candid, except that one which touches neither entries nor payloads
could put anything on record. -/
theorem Step.candid (step : Step s t) :
    Candid s t ∨ t.cache.blocks = s.cache.blocks ∧ t.cache.order = s.cache.order ∧
      t.cache.cells = s.cache.cells := by
  cases step with
  | request key alive => exact .inl fun _ => (Cache.Spares.lazy _ key).reports
  | @place c out kept name payload alive own =>
    refine .inl fun same => ?_
    dsimp only at same
    have more : (c.place name payload).1.cells.size = c.cells.size + 1 := by
      unfold Cache.place
      dsimp only
      split <;> exact Array.size_push _
    rw [same] at more
    omega
  | clone h live =>
    refine .inl fun _ p => ?_
    dsimp only
    unfold Cache.retain
    split <;> rfl
  | null kind => exact .inl fun _ _ => rfl
  | dropNull h mine null => exact .inl fun _ _ => rfl
  | lower h id mine refers => exact .inl fun _ _ => rfl
  | dismiss id => exact .inl fun _ => (Cache.Spares.dismiss _ id).reports
  | unhold p mine =>
    refine .inl fun same q => ?_
    dsimp only at same ⊢
    have fewer := (Cache.dropHolder_effect s.cache p).2 p
    rw [if_pos rfl, Cache.holdersAt, Cache.holdersAt, same] at fewer
    unfold Cache.dropHolder
    cases found : s.cache.cells[p]? with
    | none => rfl
    | some cell =>
      rw [found, Option.map_some, Option.getD_some] at fewer
      have others : cell.holders ≠ 1 := by omega
      dsimp only
      rw [if_neg others]
      rfl
  | hold h id p live refers loaded => exact .inl fun _ _ => rfl
  | claim h id b waiting live refers found claims => exact .inl fun _ _ => rfl
  | fill h id b payload live refers found loading own =>
    refine .inl fun same => ?_
    dsimp only at same
    have more : (s.cache.fill id payload).1.cells.size = s.cache.cells.size + 1 :=
      Array.size_push _
    rw [same] at more
    omega
  | abandon h id b live refers found loading => exact .inl fun _ _ => rfl
  | close => exact .inl fun _ _ => rfl
  | aside c blocks order cells alive quiet => exact .inr ⟨blocks, order, cells⟩

/-- An effect keeps the account of payloads. -/
theorem Step.accounted (step : Step s t) (candid : Candid s t) (sound : Sound s)
    (account : s.cache.Accounted) : t.cache.Accounted := by
  cases step with
  | request key alive => exact account.spared (.lazy _ key)
  | place name payload alive own => exact account.place name payload
  | clone h live =>
    cases refers : h.block with
    | none =>
      have unchanged : s.cache.retain h = s.cache := by rw [Cache.retain, refers]
      exact unchanged.symm ▸ account
    | some id =>
      have retained : s.cache.retain h = s.cache.retainBlock id := by rw [Cache.retain, refers]
      exact retained.symm ▸ account.spared (.retainBlock _ id)
  | null kind => exact account
  | dropNull h mine null => exact account
  | lower h id mine refers => exact account.spared (.lower _ id)
  | dismiss id => exact account.spared (.dismiss _ id)
  | unhold p mine => exact account.dropHolder p
  | hold h id p live refers loaded =>
    have owned := Cache.mem_owned (sound.refsAt_pos live refers) loaded
    have held : 0 < s.cache.holdersAt p := by
      rw [sound.holders p, List.count_pos_iff]
      exact List.mem_append_right _ owned
    exact account.hold held
  | claim h id b waiting live refers found claims => exact account.spared (.modifySlot _ id _)
  | fill h id b payload live refers found loading own =>
    exact (account.store payload).spared (.modifySlot _ id (·.filled s.cache.cells.size))
  | abandon h id b live refers found loading => exact account.spared (.modifySlot _ id Slot.failed)
  | close => exact account
  | aside c blocks order cells alive quiet => exact account.of_same cells (candid cells)

/-- The books of a pool, and the account of its payloads. -/
structure Kept (s : Pool) : Prop where
  sound : Sound s
  accounted : s.cache.Accounted

theorem Kept.act (kept : Kept s) (act : Act s t) : Kept t := by
  obtain ⟨sound, account⟩ := kept
  cases act with
  | effect step candid => exact ⟨sound.step step, step.accounted candid sound account⟩
  | @load c out _ key alive fit back =>
    have fair : c.Fair := ⟨account, fun l member => (fit l member).2⟩
    obtain ⟨left, leads, -, given⟩ :=
      leads_load sound alive (fun l member => (fit l member).1) key
    have whole : left = (c.load key).2.toOption.toList := by
      cases r : (c.load key).2 with
      | error failure =>
        rw [r] at given back
        exact given.resolve_right fun stuck => back (congrArg _ stuck)
      | ok h =>
        rw [r] at given
        exact given.1
    exact ⟨whole ▸ leads.sound sound, (Cache.Fair.upheld.load fair key).accounted⟩
  | @get c out _ h relies fit back =>
    have fair : c.Fair := ⟨account, fun l member => (fit l member).2⟩
    obtain ⟨left, returned⟩ :=
      returned_get sound rfl (fun l member => (fit l member).1) relies
    have leads := returned.leads
    rw [returned.nothing.resolve_right back] at leads
    exact ⟨leads.sound sound, (Cache.Fair.upheld.get fair h).accounted⟩
  | @make c out held name payload alive own =>
    have parts : payload.handles ++ out.diff payload.handles ~ out :=
      List.subperm_append_diff_self_of_count_le (List.subperm_ext_iff.mp own)
    have leads := (leads_make alive name payload (out.diff payload.handles) held).reorder
      parts.symm (.refl _)
    exact ⟨leads.sound sound, account.make name payload⟩
  | @release c out held h mine =>
    have leads := (leads_release c h (out.erase h) held).reorder (List.perm_cons_erase mine) (.refl _)
    exact ⟨leads.sound sound, account.releaseAll [h]⟩
  | @unhold c out held p mine =>
    have before : Sound ⟨c, out, p :: held.erase p, none⟩ :=
      sound.reorder (.refl _) (List.perm_cons_erase mine).symm
    exact ⟨(leads_unhold c p out (held.erase p)).sound before, account.unhold p⟩

theorem Kept.course (kept : Kept s) (course : Course s t) : Kept t := by
  induction course with
  | refl => exact kept
  | tail _ last ih => exact ih.act last

theorem Kept.start (source : Source) (waitLimit : Option Duration) :
    Kept (start source waitLimit) :=
  ⟨Sound.start source waitLimit, Cache.Accounted.start source waitLimit⟩

/-- A loader may be registered at any time. -/
theorem act_addLoader (c : Cache) (out : List Handle) (kept : List PayloadId)
    (leaving : Option BlockId) (l : Loader) :
    Act ⟨c, out, kept, leaving⟩ ⟨c.addLoader l, out, kept, leaving⟩ := by
  have plain : (Event.loaderAdded (c.loaders ++ [l]).length).Plain := rfl
  have told := Cache.Spares.record plain { c with loaders := c.loaders ++ [l] }
  exact .effect (step_addLoader ⟨c, out, kept, leaving⟩ l) fun _ => told.reports

theorem act_hold {c : Cache} {out : List Handle} {kept : List PayloadId} {h : Handle}
    {id : BlockId} {p : PayloadId} (live : h ∈ out ++ c.bound) (refers : h.block = some id)
    (loaded : c.loaded? id = some p) :
    Act ⟨c, out, kept, none⟩ ⟨c.hold p, out, p :: kept, none⟩ :=
  .effect (@Step.hold ⟨c, out, kept, none⟩ h id p live refers loaded) fun _ _ => rfl

/-! ## Holders -/

/-- Where no handle is inside a payload nothing holds anything. -/
theorem acyclic_of_bound (bound : s.cache.bound = []) : s.Acyclic := by
  intro p circle
  obtain ⟨q, ⟨cell, here, h, inside, -⟩, -⟩ := Relation.TransGen.head'_iff.mp circle
  have member : h ∈ s.cache.bound :=
    List.mem_flatMap.mpr ⟨cell, Array.mem_toList_iff.mpr (Array.mem_of_getElem? here), inside⟩
  rw [bound] at member
  exact List.not_mem_nil member

/-- In a deserted pool only payloads can hold a payload. -/
theorem Sound.holder_of_held (sound : Sound s) (deserted : s.Deserted) {q : PayloadId}
    (held : 0 < s.cache.holdersAt q) : ∃ p, 0 < s.cache.holdersAt p ∧ s.Holds p q := by
  -- An entry has the payload,
  have owned : q ∈ s.cache.owned := by
    rw [sound.holders q, List.count_pos_iff, holdings, deserted.kept, deserted.leaving] at held
    simpa using held
  obtain ⟨b, member, inside⟩ := List.mem_flatMap.mp owned
  obtain ⟨id, here⟩ := List.mem_iff_getElem?.mp member
  have found : s.cache.block? id = some b := by
    rw [Cache.block?, ← here, Array.getElem?_toList]
  have pos : 0 < b.refs := by
    refine Nat.pos_of_ne_zero ?_
    intro zero
    rw [Block.held, if_pos zero] at inside
    exact List.not_mem_nil inside
  have loaded : s.cache.loaded? id = some q := by
    rw [Block.held, if_neg (Nat.ne_of_gt pos)] at inside
    rw [Cache.loaded?, found]
    simpa using inside
  -- to which there is a handle,
  have refs : 0 < s.cache.refsAt id := by
    rw [Cache.refsAt, found]
    exact pos
  obtain ⟨h, live, refers⟩ := sound.exists_live refs
  -- which is inside a payload.
  rcases List.mem_append.mp live with outside | bound
  · rw [deserted.null h outside] at refers
    contradiction
  · obtain ⟨p, cell, here, inside, held⟩ := Cache.holder_of_bound bound
    exact ⟨p, held, cell, here, h, inside, id, refers, loaded⟩

/-- Without end there is no chain of holders, and so nobody holds anything. -/
theorem Sound.nothing_held (sound : Sound s) (deserted : s.Deserted) (acyclic : s.Acyclic)
    (q : PayloadId) : s.cache.holdersAt q = 0 := by
  have bounded {p : PayloadId} (held : 0 < s.cache.holdersAt p) : p < s.cache.cells.size := by
    by_contra outside
    rw [Cache.holdersAt_of_size_le (Nat.le_of_not_lt outside)] at held
    exact Nat.lt_irrefl 0 held
  let above (p q : Fin s.cache.cells.size) : Prop := Relation.TransGen s.Holds p q
  have : IsTrans _ above := ⟨fun _ _ _ => Relation.TransGen.trans⟩
  have : Std.Irrefl above := ⟨fun p => acyclic p⟩
  have founded : WellFounded above := Finite.wellFounded_of_trans_of_irrefl above
  have free (q : Fin s.cache.cells.size) : s.cache.holdersAt q = 0 := by
    induction q using founded.induction with
    | _ q ih =>
      by_contra held
      obtain ⟨p, held', holds⟩ := sound.holder_of_held deserted (Nat.pos_of_ne_zero held)
      exact Nat.ne_of_gt held' (ih ⟨p, bounded held'⟩ (.single holds))
  by_contra held
  exact held (free ⟨q, bounded (Nat.pos_of_ne_zero held)⟩)

/-- Where nobody holds anything no handle is left inside payloads either. -/
theorem Sound.order_nil (sound : Sound s) (deserted : s.Deserted)
    (free : ∀ p, s.cache.holdersAt p = 0) (alive : s.cache.open_ = true) : s.cache.order = [] := by
  refine List.eq_nil_iff_forall_not_mem.mpr ?_
  intro id listed
  rcases (sound.listed alive id).mp listed with pos | gone
  · obtain ⟨h, live, refers⟩ := sound.exists_live pos
    rcases List.mem_append.mp live with outside | bound
    · rw [deserted.null h outside] at refers
      contradiction
    · obtain ⟨p, -, -, -, held⟩ := Cache.holder_of_bound bound
      exact Nat.ne_of_gt held (free p)
  · rw [deserted.leaving] at gone
    contradiction

/-- Whatever callers do: nothing is destroyed twice. And when they have given up all they
had, all payloads there ever were have been destroyed, unless some hold each other in a
circle, and a live cache is empty. -/
theorem no_leak {source : Source} {waitLimit : Option Duration} {s : Pool}
    (course : Course (start source waitLimit) s) :
    (∀ p, s.cache.reports p ≤ 1) ∧
      (s.Acyclic → s.Deserted →
        (∀ p < s.cache.cells.size, s.cache.holdersAt p = 0 ∧ s.cache.reports p = 1) ∧
          (s.cache.open_ = true → s.cache.order = [])) := by
  obtain ⟨sound, account⟩ := (Kept.start source waitLimit).course course
  refine ⟨?_, ?_⟩
  · intro p
    have balance := account p
    split at balance <;> split at balance <;> omega
  · intro acyclic deserted
    have free := sound.nothing_held deserted acyclic
    refine ⟨?_, sound.order_nil deserted free⟩
    intro p made
    have balance := account p
    rw [if_pos (free p), if_pos made] at balance
    exact ⟨free p, balance⟩

/-- A note that loads two others, a loader that panics, a value that finds its name taken,
and a payload that is held longer than its entry: in the end all four are destroyed. -/
theorem no_leak_linked_notes :
    let source : Source := .table [("a", #[76, 98, 44, 99]), ("b", #[78]), ("c", #[78]), ("d", #[80])]
    let c := ([⟨.linksNow, "L", [.note]⟩, ⟨.note, "N", [.note]⟩, ⟨.panic, "P", [.note]⟩] :
      List Tagged).foldl (fun c t => c.addLoader t.loader) (Cache.new source none)
    let loaded := (c.load ⟨"a", .note⟩).1
    let panicked := (loaded.load ⟨"d", .note⟩).1
    let made := ((panicked.hold 0).make "a" (.note "late" [])).1
    let done := ((made.release ⟨.note, some 0⟩).release ⟨.note, some 0⟩).unhold 0
    let s : Pool := ⟨done, [], [], none⟩
    Course (start source none) s ∧ s.Acyclic ∧ s.Deserted ∧
      (∀ p < 4, done.holdersAt p = 0 ∧ done.reports p = 1) ∧ done.order = [] := by
  intro source c loaded panicked made done s
  let a : Handle := ⟨.note, some 0⟩
  have register : Course (start source none) ⟨c, [], [], none⟩ :=
    ((Relation.ReflTransGen.single (act_addLoader _ _ _ _ _)).tail (act_addLoader _ _ _ _ _)).tail
      (act_addLoader _ _ _ _ _)
  have fit : ∀ l ∈ c.loaders, l.Honest ∧ l.Reports Event.Plain := by
    intro l member
    change l ∈ [_, _, _] at member
    simp only [List.mem_cons, List.not_mem_nil, or_false] at member
    have plain (t : Tagged) : t.loader.Reports Event.Plain :=
      t.loader_reports (fun _ _ => rfl) fun _ _ _ => rfl
    rcases member with rfl | rfl | rfl <;> exact ⟨Tagged.loader_honest _, plain _⟩
  have load : Act ⟨c, [], [], none⟩ ⟨loaded, [a], [], none⟩ := by
    have given : (c.load ⟨"a", .note⟩).2 = .ok a := by decide +kernel
    have act := @Act.load c [] [] ⟨"a", .note⟩ (by decide +kernel) fit (by rw [given]; simp)
    rw [given] at act
    exact act
  have fit' : ∀ l ∈ loaded.loaders, l.Honest ∧ l.Reports Event.Plain := by
    obtain ⟨sound, -⟩ := (Kept.start source none).course register
    have alive : c.open_ = true := by decide +kernel
    obtain ⟨-, -, calm, -⟩ := leads_load sound alive (fun l member => (fit l member).1) ⟨"a", .note⟩
    rw [calm.loaders]
    exact fit
  have failing : Act ⟨loaded, [a], [], none⟩ ⟨panicked, [a], [], none⟩ := by
    have given : (loaded.load ⟨"d", .note⟩).2 = .error (.panic "loader panic ") := by decide +kernel
    have act := @Act.load loaded [a] [] ⟨"d", .note⟩ (by decide +kernel) fit' (by rw [given]; simp)
    rw [given] at act
    exact act
  have hold : Act ⟨panicked, [a], [], none⟩ ⟨panicked.hold 0, [a], [0], none⟩ :=
    @act_hold panicked [a] [] ⟨.note, some 1⟩ 1 0 (by decide +kernel) rfl (by decide +kernel)
  have make : Act ⟨panicked.hold 0, [a], [0], none⟩ ⟨made, [a, a], [0], none⟩ := by
    have given : ((panicked.hold 0).make "a" (.note "late" [])).2 = a := by decide +kernel
    have act := @Act.make (panicked.hold 0) [a] [0] "a" (.note "late" []) (by decide +kernel)
      List.nil_subperm
    rw [given] at act
    exact act
  have release : Act ⟨made, [a, a], [0], none⟩ ⟨made.release a, [a], [0], none⟩ :=
    @Act.release made [a, a] [0] a List.mem_cons_self
  have release' : Act ⟨made.release a, [a], [0], none⟩
      ⟨(made.release a).release a, [], [0], none⟩ :=
    @Act.release (made.release a) [a] [0] a List.mem_cons_self
  have unhold : Act ⟨(made.release a).release a, [], [0], none⟩ s :=
    @Act.unhold ((made.release a).release a) [] [0] 0 List.mem_cons_self
  have course : Course (start source none) s :=
    (((((((register.tail load).tail failing).tail hold).tail make).tail release).tail
      release').tail unhold)
  have bound : done.bound = [] := by decide +kernel
  have four : done.cells.size = 4 := by decide +kernel
  have alive : done.open_ = true := by decide +kernel
  clear_value done
  have acyclic : s.Acyclic := acyclic_of_bound bound
  have deserted : s.Deserted := ⟨by simp [s], rfl, rfl⟩
  obtain ⟨destroyed, empty⟩ := (no_leak course).2 acyclic deserted
  rw [four] at destroyed
  exact ⟨course, acyclic, deserted, destroyed, empty alive⟩

end Pool

end TileEngine
