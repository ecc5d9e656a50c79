import TileEngine.Loader.Picture
import TileEngine.Loader.Tagged
import TileEngine.Loader.World

/-!
What loaders report. All that a loader puts on record is as it should be, whatever that is
to mean, if the few events are that it has for its own doings. In particular no loader there is
says of a payload that it was destroyed; only the cache knows that.
-/

namespace TileEngine

/-- The payload that an event reports destroyed. -/
def Event.destroyed? : Event → Option PayloadId
  | .destroyed p _ => some p
  | _ => none

/-- All events that a script records are as they should be, whatever it is answered. -/
def LoadScript.Records (ok : Event → Prop) : LoadScript → Prop
  | .finish _ | .fail _ | .panic _ => True
  | .record event next => ok event ∧ next.Records ok
  | .request _ next => ∀ h, (next h).Records ok
  | .demand _ next => ∀ r, (next r).Records ok
  | .inspect _ next => ∀ r, (next r).Records ok

/-- All that a loader reports is as it should be. -/
structure Loader.Reports (ok : Event → Prop) (loader : Loader) : Prop where
  probe : ∀ s, ∀ e ∈ (loader.probe s).events, ok e
  opening : ∀ s context, ∀ e ∈ loader.opening s context, ok e
  decode : ∀ s context, (loader.decode s context).Records ok

/-- An event that reports no payload destroyed. -/
def Event.Plain (e : Event) : Prop := e.destroyed? = none

/-! ## The loaders there are -/

namespace Loader

variable {ok : Event → Prop}

theorem png_reports (decoded : ∀ name size, ok (.pictureDecoded name size)) : png.Reports ok := by
  refine ⟨?_, ?_, ?_⟩
  · intro s e member
    simp only [png, probePng] at member
    split at member <;> contradiction
  · intro s context e member
    contradiction
  · intro s context
    change (decodePng s context).Records ok
    unfold decodePng
    split
    · trivial
    · split
      · trivial
      · split
        · trivial
        · exact ⟨decoded _ _, trivial⟩

theorem tileMap_reports (decoded : ∀ name, ok (.mapDecoded name)) : tileMap.Reports ok := by
  refine ⟨?_, ?_, ?_⟩
  · intro s e member
    simp only [tileMap, probeMap] at member
    split at member <;> contradiction
  · intro s context e member
    contradiction
  · intro s context
    change (decodeMap s context).Records ok
    unfold decodeMap
    split
    · trivial
    · split
      · trivial
      · unfold mapScript
        split
        · trivial
        · intro image
          dsimp only
          split
          · trivial
          · exact ⟨decoded _, trivial⟩

end Loader

namespace Tagged

theorem linkScript_records (ok : Event → Prop) (text : String) (names : List String)
    (links : List Handle) : (linkScript text names links).Records ok := by
  induction names generalizing links with
  | nil => trivial
  | cons name rest ih => exact fun link => ih (link :: links)

theorem linkNowScript_records (ok : Event → Prop) (text : String) (names : List String)
    (links : List Handle) : (linkNowScript text names links).Records ok := by
  induction names generalizing links with
  | nil => trivial
  | cons name rest ih =>
    intro r
    cases r with
    | ok link => exact ih (link :: links)
    | error cause => trivial

theorem reenterScript_records (ok : Event → Prop) (context : LoadContext) :
    (reenterScript context).Records ok := by
  unfold reenterScript
  split
  · trivial
  · intro own r
    cases r with
    | ok payload => trivial
    | error cause => trivial

/-- A script for a tagged text records nothing at all. -/
theorem script_records (ok : Event → Prop) (t : Tagged) (text : String) (s : ByteStream)
    (context : LoadContext) : (t.script text s context).Records ok := by
  unfold script
  cases t.manner with
  | note => trivial
  | fail => trivial
  | panic => trivial
  | pastEnd =>
    dsimp only
    split
    · trivial
    · trivial
  | sprite => trivial
  | links => exact linkScript_records ok _ _ _
  | linksNow => exact linkNowScript_records ok _ _ _
  | reenter => exact reenterScript_records ok context

theorem loader_reports {ok : Event → Prop} (probed : ∀ tag position, ok (.probed tag position))
    (decoding : ∀ tag key position, ok (.decoding tag key position)) (t : Tagged) :
    t.loader.Reports ok := by
  refine ⟨?_, ?_, ?_⟩
  · intro s e member
    simp only [loader, probe] at member
    split at member
    · rw [List.mem_singleton.mp member]
      exact probed _ _
    · rw [List.mem_singleton.mp member]
      exact probed _ _
  · intro s context e member
    rw [List.mem_singleton.mp member]
    exact decoding _ _ _
  · intro s context
    change (t.decode s context).Records ok
    unfold decode
    split
    · trivial
    · exact t.script_records _ _ _ context

end Tagged

end TileEngine
