import TileEngine.Proofs.Cache.History

/-!
What one caller does, as runs of a pool. A caller that drops a handle does not stop
before the handles of all payloads that are destroyed on the way are dropped as well.
Whatever else lies outside payloads, of the same caller or of others, stays there.
-/

namespace TileEngine

open scoped List

namespace Cache

variable {c : Cache}

theorem lower_eq_self {id : BlockId} (unknown : c.block? id = none) : c.lower id = c := by
  have outside : c.blocks.size ≤ id := Array.getElem?_eq_none_iff.mp unknown
  have same : c.blocks.modify id (fun b => { b with refs := b.refs - 1 }) = c.blocks := by
    apply Array.ext_getElem?
    intro j
    rw [Array.getElem?_modify]
    split
    · rename_i at_id
      rw [← at_id, Array.getElem?_eq_none_iff.mpr outside]
      rfl
    · rfl
  rw [lower, modifyBlock, same]

theorem dropRef_eq (c : Cache) (id : BlockId) :
    c.dropRef id =
      if c.refsAt id ≤ 1 then (c.lower id).dismiss id else (c.lower id, none) := by
  unfold dropRef refsAt
  cases found : c.block? id with
  | none => simp [lower_eq_self found, dismiss, found]
  | some b =>
    dsimp only
    by_cases more : b.refs > 1
    · rw [if_pos more, if_neg (by simpa using more)]
    · rw [if_neg more, if_pos (by simpa using more)]

theorem bound_dropRef (c : Cache) (id : BlockId) : (c.dropRef id).1.bound = c.bound := by
  rw [dropRef_eq]
  split
  · obtain ⟨-, cells, -, -⟩ := dismiss_frame (c.lower id) id
    rw [bound, bound, cells]
    rfl
  · rfl

theorem releaseOne_null {h : Handle} (null : h.block = none) : c.releaseOne h = (c, []) := by
  rw [releaseOne, null]

theorem releaseOne_left {h : Handle} {id : BlockId} {d : Cache} (refers : h.block = some id)
    (left : c.dropRef id = (d, none)) : c.releaseOne h = (d, []) := by
  simp only [releaseOne, refers, left]

theorem releaseOne_destroyed {h : Handle} {id : BlockId} {d : Cache} {p : PayloadId}
    (refers : h.block = some id) (left : c.dropRef id = (d, some p)) :
    c.releaseOne h = d.dropHolder p := by
  simp only [releaseOne, refers, left]

/-- A payload that is destroyed hands out what it held, and nobody else does. -/
theorem length_releaseOne (c : Cache) (h : Handle) :
    (c.releaseOne h).2.length + (c.releaseOne h).1.bound.length = c.bound.length := by
  cases refers : h.block with
  | none => simp [releaseOne_null refers]
  | some id =>
    have kept := bound_dropRef c id
    rcases dropped : c.dropRef id with ⟨d, _ | p⟩
    · rw [dropped] at kept
      rw [releaseOne_left refers dropped, ← kept]
      exact Nat.zero_add _
    · rw [dropped] at kept
      have parts := (dropHolder_effect d p).1.length_eq
      rw [List.length_append] at parts
      rw [releaseOne_destroyed refers dropped, ← kept]
      exact parts.symm

theorem length_bound_le (c : Cache) : c.bound.length ≤ c.handleCount := by
  unfold bound handleCount
  induction c.cells.toList with
  | nil => simp
  | cons cell rest ih =>
    have less : cell.handles.length ≤ cell.payload.handles.length := by
      unfold Cell.handles
      split
      · exact Nat.zero_le _
      · exact Nat.le_refl _
    rw [List.flatMap_cons, List.flatMap_cons, List.length_append, List.length_append]
    omega

end Cache

namespace Pool

variable {s t u : Pool} {c : Cache} {out : List Handle} {kept : List PayloadId}

/-- Whatever order the handles and payloads outside are in, a run leads to some order
of those that are to be there then. -/
def Leads (s t : Pool) : Prop :=
  ∀ out kept, out ~ s.out → kept ~ s.kept → ∃ out' kept', out' ~ t.out ∧ kept' ~ t.kept ∧
    Run { s with out := out, kept := kept } { t with out := out', kept := kept' }

theorem Sound.reorder (sound : Sound s) {out : List Handle} {kept : List PayloadId}
    (outs : out ~ s.out) (kepts : kept ~ s.kept) : Sound { s with out := out, kept := kept } := by
  refine sound.of_perm rfl rfl rfl rfl ?_ ?_ (fun _ lost => lost)
  · exact outs.append_right _
  · intro p
    refine (sound.holders p).trans ?_
    exact (((kepts.append_right _).append_right _).count_eq p).symm

namespace Leads

theorem refl (s : Pool) : Leads s s :=
  fun out kept outs kepts => ⟨out, kept, outs, kepts, .refl⟩

theorem trans (first : Leads s t) (second : Leads t u) : Leads s u := by
  intro out kept outs kepts
  obtain ⟨out', kept', outs', kepts', run⟩ := first out kept outs kepts
  obtain ⟨out'', kept'', outs'', kepts'', more⟩ := second out' kept' outs' kepts'
  exact ⟨out'', kept'', outs'', kepts'', run.trans more⟩

theorem reorder (leads : Leads s t) {out out' : List Handle} (before : out ~ s.out)
    (after : t.out ~ out') : Leads { s with out := out } { t with out := out' } := by
  intro o k outs kepts
  obtain ⟨o', k', outs', kepts', run⟩ := leads o k (outs.trans before) kepts
  exact ⟨o', k', outs'.trans after, kepts', run⟩

theorem sound (leads : Leads s t) (sound : Sound s) : Sound t := by
  obtain ⟨out, kept, outs, kepts, run⟩ := leads s.out s.kept (.refl _) (.refl _)
  exact (sound.run run).reorder (s := { t with out := out, kept := kept }) outs.symm kepts.symm

theorem later (leads : Leads s t) : s.cache.Later t.cache := by
  obtain ⟨out, kept, -, -, run⟩ := leads s.out s.kept (.refl _) (.refl _)
  have later := Run.later run
  exact later

end Leads

/-! ## Taking -/

theorem leads_lazy (alive : c.open_ = true) (key : Key) (out : List Handle)
    (kept : List PayloadId) :
    Leads ⟨c, out, kept, none⟩ ⟨(c.lazy key).1, (c.lazy key).2 :: out, kept, none⟩ := by
  intro o k outs kepts
  exact ⟨_, k, outs.cons _, kepts, .single (.request key alive)⟩

/-- Some handles are given away, and the others stay. -/
theorem given_away {handles rest : List Handle} (parts : out ~ handles ++ rest) :
    handles <+~ out ∧ out.diff handles ~ rest := by
  have own : handles <+~ out := (List.sublist_append_left _ _).subperm.trans parts.symm.subperm
  have whole : handles ++ out.diff handles ~ out :=
    List.subperm_append_diff_self_of_count_le (List.subperm_ext_iff.mp own)
  exact ⟨own, (List.perm_append_left_iff _).mp (whole.trans parts)⟩

/-! ## Giving back -/

theorem run_dropRef {h : Handle} {id : BlockId} (mine : h ∈ out) (refers : h.block = some id) :
    Run ⟨c, out, kept, none⟩
      ⟨(c.dropRef id).1, out.erase h, (c.dropRef id).2.toList ++ kept, none⟩ := by
  have lower := @Step.lower c out kept h id mine refers
  rw [Cache.dropRef_eq]
  by_cases last : c.refsAt id ≤ 1
  · rw [if_pos last] at lower ⊢
    exact (Relation.ReflTransGen.single lower).tail (.dismiss id)
  · rw [if_neg last] at lower ⊢
    exact .single lower

theorem leads_releaseOne (c : Cache) (h : Handle) (out : List Handle) (kept : List PayloadId) :
    Leads ⟨c, h :: out, kept, none⟩
      ⟨(c.releaseOne h).1, (c.releaseOne h).2 ++ out, kept, none⟩ := by
  intro o k outs kepts
  have mine : h ∈ o := outs.mem_iff.mpr List.mem_cons_self
  have rest : o.erase h ~ out := by simpa using outs.erase h
  cases refers : h.block with
  | none =>
    rw [Cache.releaseOne_null refers]
    exact ⟨o.erase h, k, rest, kepts, .single (.dropNull h mine refers)⟩
  | some id =>
    have drop := @run_dropRef c o k h id mine refers
    rcases dropped : c.dropRef id with ⟨d, _ | p⟩
    · rw [dropped] at drop
      rw [Cache.releaseOne_left refers dropped]
      exact ⟨o.erase h, k, rest, kepts, drop⟩
    · rw [dropped] at drop
      rw [Cache.releaseOne_destroyed refers dropped]
      have destroy := @Step.unhold ⟨d, o.erase h, p :: k, none⟩ p List.mem_cons_self
      rw [List.erase_cons_head] at destroy
      exact ⟨_, k, rest.append_left _, kepts, drop.tail destroy⟩

/-- The bound on the number of steps leaves no handle over. -/
theorem leads_releaseSteps (steps : Nat) (c : Cache) (handles out : List Handle)
    (kept : List PayloadId) (enough : handles.length + c.bound.length ≤ steps) :
    Leads ⟨c, handles ++ out, kept, none⟩ ⟨c.releaseSteps steps handles, out, kept, none⟩ := by
  induction steps generalizing c handles with
  | zero =>
    have nothing : handles = [] := List.eq_nil_of_length_eq_zero (by omega)
    rw [nothing]
    exact Leads.refl _
  | succ steps ih =>
    cases handles with
    | nil => exact Leads.refl _
    | cons h rest =>
      have first := leads_releaseOne c h (rest ++ out) kept
      have fewer := Cache.length_releaseOne c h
      have others := ih (c.releaseOne h).1 ((c.releaseOne h).2 ++ rest) (by
        rw [List.length_cons] at enough
        rw [List.length_append]
        omega)
      rw [List.append_assoc] at others
      exact first.trans others

theorem leads_releaseAll (c : Cache) (handles out : List Handle) (kept : List PayloadId) :
    Leads ⟨c, handles ++ out, kept, none⟩ ⟨c.releaseAll handles, out, kept, none⟩ := by
  apply leads_releaseSteps
  exact Nat.add_le_add_left c.length_bound_le _

theorem leads_release (c : Cache) (h : Handle) (out : List Handle) (kept : List PayloadId) :
    Leads ⟨c, h :: out, kept, none⟩ ⟨c.release h, out, kept, none⟩ :=
  leads_releaseAll c [h] out kept

theorem leads_unhold (c : Cache) (p : PayloadId) (out : List Handle) (kept : List PayloadId) :
    Leads ⟨c, out, p :: kept, none⟩ ⟨c.unhold p, out, kept, none⟩ := by
  refine Leads.trans ?_ (leads_releaseAll (c.dropHolder p).1 (c.dropHolder p).2 out kept)
  intro o k outs kepts
  have mine : p ∈ k := kepts.mem_iff.mpr List.mem_cons_self
  have rest : k.erase p ~ kept := by simpa using kepts.erase p
  exact ⟨_, _, outs.append_left _, rest, .single (.unhold p mine)⟩

/-- A value that is made takes its handles along, and where it finds no place it gives
them back. -/
theorem leads_make (alive : c.open_ = true) (name : String) (payload : Payload)
    (out : List Handle) (kept : List PayloadId) :
    Leads ⟨c, payload.handles ++ out, kept, none⟩
      ⟨(c.make name payload).1, (c.make name payload).2 :: out, kept, none⟩ := by
  have place : Leads ⟨c, payload.handles ++ out, kept, none⟩
      ⟨(c.place name payload).1, (c.place name payload).2.1 :: out,
        (c.place name payload).2.2.toList ++ kept, none⟩ := by
    intro o k outs kepts
    obtain ⟨own, rest⟩ := given_away outs
    exact ⟨_, _, rest.cons _, kepts.append_left _, .single (.place name payload alive own)⟩
  unfold Cache.make
  rcases placed : c.place name payload with ⟨d, h, _ | p⟩
  · rw [placed] at place
    exact place
  · rw [placed] at place
    exact place.trans (leads_unhold d p (h :: out) kept)

end Pool

end TileEngine
