import TileEngine.Loader.Picture
import TileEngine.Loader.Tagged
import TileEngine.Loader.World
import Mathlib.Data.List.Perm.Subperm

/-!
Honest scripts: a decoder cannot make up handles. What goes into its payload is what
it took from the cache, and it looks at the resources of such handles only. All
loaders there are have honest scripts.
-/

namespace TileEngine

open scoped List

/-- An event that is no complaint about a missing entry. -/
def Event.Quiet (e : Event) : Prop := ∀ key, e ≠ .lost key

/-- What the cache itself reports when it looks for a loader. -/
def Event.OfSearch : Event → Prop
  | .ownerGone _ | .noLoader _ | .notOpened .. | .notRewound .. | .notAccepted _ => True
  | _ => False

/-- A script deals with handles that it took. -/
inductive LoadScript.Honest : List Handle → LoadScript → Prop
  | finish {taken : List Handle} {payload : Payload} (own : payload.handles <+~ taken) :
      Honest taken (.finish payload)
  | fail {taken : List Handle} {cause : DecodeFailure} : Honest taken (.fail cause)
  | panic {taken : List Handle} {message : String} : Honest taken (.panic message)
  | record {taken : List Handle} {event : Event} {next : LoadScript} (quiet : event.Quiet)
      (tail : Honest taken next) : Honest taken (.record event next)
  | request {taken : List Handle} {key : Key} {next : Handle → LoadScript}
      (tail : ∀ h, h.kind = key.kind → Honest (taken ++ [h]) (next h)) :
      Honest taken (.request key next)
  | demand {taken : List Handle} {key : Key} {next : Except ResourceError Handle → LoadScript}
      (tail : ∀ h, h.kind = key.kind → Honest (taken ++ [h]) (next (.ok h)))
      (without : ∀ cause, Honest taken (next (.error cause))) : Honest taken (.demand key next)
  | inspect {taken : List Handle} {h : Handle} {next : Except ResourceError Payload → LoadScript}
      (mine : h ∈ taken) (tail : ∀ r, Honest taken (next r)) : Honest taken (.inspect h next)

/-- A loader whose scripts are honest from the start. -/
structure Loader.Honest (loader : Loader) : Prop where
  probe : ∀ s, ∀ e ∈ (loader.probe s).events, e.Quiet
  opening : ∀ s context, ∀ e ∈ loader.opening s context, e.Quiet
  decode : ∀ s context, (loader.decode s context).Honest []

namespace Loader

/-- Who is chosen was among those that were asked, and only those report anything. -/
theorem choose_among {ok : Event → Prop} {loaders : List Loader}
    (probes : ∀ l ∈ loaders, ∀ s, ∀ e ∈ (l.probe s).events, ok e) (s : ByteStream) :
    (∀ e ∈ (choose loaders s).1, ok e) ∧
      ∀ loader stream, (choose loaders s).2 = .chosen loader stream → loader ∈ loaders := by
  induction loaders generalizing s with
  | nil => simp [choose]
  | cons loader rest ih =>
    have own := probes loader List.mem_cons_self
    have others := ih fun l member => probes l (List.mem_cons_of_mem _ member)
    unfold choose
    rcases s.seek 0 with ⟨cause | -, s⟩
    · simp
    · dsimp only
      split
      · rcases (loader.probe s).stream.seek 0 with ⟨cause | -, s'⟩
        · exact ⟨own s, by simp⟩
        · refine ⟨own s, ?_⟩
          intro chosen stream same
          cases same
          exact List.mem_cons_self
      · obtain ⟨reports, found⟩ := others (loader.probe s).stream
        exact ⟨List.forall_mem_append.mpr ⟨own s, reports⟩,
          fun chosen stream same => List.mem_cons_of_mem _ (found chosen stream same)⟩

/-! ## The loaders there are -/

theorem png_honest : png.Honest := by
  refine ⟨?_, ?_, ?_⟩
  · intro s e member
    simp only [png, probePng] at member
    split at member
    · contradiction
    · contradiction
  · intro s context e member
    contradiction
  · intro s context
    change (decodePng s context).Honest []
    unfold decodePng
    split
    · exact .fail
    · split
      · exact .fail
      · split
        · exact .fail
        · refine .record ?_ (.finish (List.nil_subperm))
          intro key same
          contradiction

theorem mapOf_handles {d : MapDocument} {layer : LayerDocument} {t : TilesetDocument}
    {image : Handle} {map : TileMap} (made : mapOf d layer t image = .ok map) :
    (Payload.tileMap map).handles = [image] := by
  unfold mapOf at made
  dsimp only at made
  split at made
  · contradiction
  · cases made
    rfl

theorem mapScript_honest (name : String) (d : MapDocument) : (mapScript name d).Honest [] := by
  unfold mapScript
  split
  · exact .fail
  · apply LoadScript.Honest.request
    intro image _
    split
    · exact .fail
    · rename_i map made
      apply LoadScript.Honest.record
      · intro key same
        contradiction
      · apply LoadScript.Honest.finish
        rw [mapOf_handles made]
        exact List.Subperm.refl _

theorem tileMap_honest : tileMap.Honest := by
  refine ⟨?_, ?_, ?_⟩
  · intro s e member
    simp only [tileMap, probeMap] at member
    split at member
    · contradiction
    · contradiction
  · intro s context e member
    contradiction
  · intro s context
    change (decodeMap s context).Honest []
    unfold decodeMap
    split
    · exact .fail
    · split
      · exact .fail
      · exact mapScript_honest _ _

end Loader

namespace Tagged

theorem linkScript_honest (text : String) (names : List String) (links : List Handle) :
    (linkScript text names links).Honest links.reverse := by
  induction names generalizing links with
  | nil => exact .finish (List.Subperm.refl _)
  | cons name rest ih =>
    apply LoadScript.Honest.request
    intro link _
    have tail := ih (link :: links)
    rwa [List.reverse_cons] at tail

theorem linkNowScript_honest (text : String) (names : List String) (links : List Handle) :
    (linkNowScript text names links).Honest links.reverse := by
  induction names generalizing links with
  | nil => exact .finish (List.Subperm.refl _)
  | cons name rest ih =>
    apply LoadScript.Honest.demand
    · intro link _
      have tail := ih (link :: links)
      rwa [List.reverse_cons] at tail
    · intro cause
      exact .fail

theorem reenterScript_honest (context : LoadContext) : (reenterScript context).Honest [] := by
  unfold reenterScript
  split
  · exact .fail
  · apply LoadScript.Honest.request
    intro own _
    apply LoadScript.Honest.inspect (List.mem_singleton.mpr rfl)
    intro r
    cases r with
    | ok payload => exact .finish List.nil_subperm
    | error cause => exact .finish List.nil_subperm

theorem script_honest (t : Tagged) (text : String) (s : ByteStream) (context : LoadContext) :
    (t.script text s context).Honest [] := by
  unfold script
  cases t.manner with
  | note => exact .finish List.nil_subperm
  | fail => exact .fail
  | panic => exact .panic
  | pastEnd =>
    dsimp only
    split
    · exact .finish List.nil_subperm
    · exact .fail
  | sprite => exact .finish List.nil_subperm
  | links => exact linkScript_honest _ _ []
  | linksNow => exact linkNowScript_honest _ _ []
  | reenter => exact reenterScript_honest context

theorem loader_honest (t : Tagged) : t.loader.Honest := by
  refine ⟨?_, ?_, ?_⟩
  · intro s e member key same
    simp only [loader, probe] at member
    split at member
    · rw [List.mem_singleton.mp member] at same
      contradiction
    · rw [List.mem_singleton.mp member] at same
      contradiction
  · intro s context e member key same
    rw [List.mem_singleton.mp member] at same
    contradiction
  · intro s context
    change (t.decode s context).Honest []
    unfold decode
    split
    · exact .fail
    · exact t.script_honest _ _ context

end Tagged

end TileEngine
