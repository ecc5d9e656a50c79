import TileEngine.Proofs.Cache.Calm
import TileEngine.Proofs.Loader.Reports

/-!
What calls keep up. A property of caches that the single steps of a load keep is kept by whole
loads, however deep they are nested, and by all calls that load.
-/

namespace TileEngine

/-- What the cache itself reports of a load. -/
def Event.OfLoad : Event → Prop
  | .loaded _ | .notLoaded .. | .timedOut _ => True
  | event => event.OfSearch

namespace Cache

/-- A property that the steps of a load keep, where all that is put on record is as it should be. -/
structure Upheld (ok : Event → Prop) (P : Cache → Prop) : Prop where
  own : ∀ e : Event, e.OfLoad → ok e
  reports : ∀ c, P c → ∀ l ∈ c.loaders, l.Reports ok
  record : ∀ c e, P c → ok e → P (c.record e)
  store : ∀ c payload, P c → P (c.store payload).1
  modifySlot : ∀ c id f, P c → P (c.modifySlot id f)
  lazy : ∀ c key, P c → P (c.lazy key).1
  releaseAll : ∀ c handles, P c → P (c.releaseAll handles)

namespace Upheld

variable {ok : Event → Prop} {P : Cache → Prop} {c : Cache} (upheld : Upheld ok P)

include upheld

theorem recordAll {events : List Event} (fine : ∀ e ∈ events, ok e) (holds : P c) :
    P (c.recordAll events) := by
  induction events generalizing c with
  | nil => exact holds
  | cons event rest ih =>
    exact ih (fun e member => fine e (List.mem_cons_of_mem _ member))
      (upheld.record c event holds (fine event List.mem_cons_self))

theorem settle (holds : P c) (id : BlockId) (key : Key) (outcome : Outcome) :
    P (c.settle id key outcome).1 := by
  cases outcome with
  | produced payload =>
    have told := upheld.record c (.loaded key) holds (upheld.own _ trivial)
    exact upheld.modifySlot _ id (·.filled c.cells.size) (upheld.store _ payload told)
  | refused cause =>
    have told := upheld.record c (.notLoaded key cause) holds (upheld.own _ trivial)
    exact upheld.modifySlot _ id Slot.failed told
  | halted failure =>
    cases failure with
    | stuck => exact holds
    | error cause => exact upheld.modifySlot c id Slot.failed holds
    | panic message => exact upheld.modifySlot c id Slot.failed holds

theorem prepare (holds : P c) (key : Key) :
    P (c.prepare key).1 ∧ ∀ script, (c.prepare key).2 = some script → script.Records ok := by
  have own (e : Event) (searched : e.OfSearch) : ok e := by
    apply upheld.own
    cases e with
    | loaded | notLoaded | timedOut => trivial
    | _ => exact searched
  have reports := upheld.reports c holds
  obtain ⟨events, same, fine, found⟩ := prepare_cases own
    (fun l member => (reports l member).probe) (fun l member => (reports l member).opening) key
  refine ⟨same ▸ upheld.recordAll fine holds, ?_⟩
  intro script here
  obtain ⟨-, l, member, s, context, rfl⟩ := found script here
  exact (reports l member).decode s context

section resolve

variable {resolve : Resolver} (keeps : ∀ c id, P c → P (resolve c id).1)

include keeps

omit upheld in
theorem getWith (holds : P c) (h : Handle) : P (Cache.getWith resolve c h).1 := by
  unfold Cache.getWith
  cases h.block with
  | none => exact holds
  | some id =>
    have resolved := keeps c id holds
    dsimp only
    rcases got : resolve c id with ⟨d, failure | p⟩
    · rw [got] at resolved
      exact resolved
    · rw [got] at resolved
      exact resolved

theorem loadWith (holds : P c) (key : Key) : P (Cache.loadWith resolve c key).1 := by
  have asked := upheld.lazy c key holds
  unfold Cache.loadWith
  rcases taken : c.lazy key with ⟨d, h⟩
  rw [taken] at asked
  have tried := getWith keeps asked h
  dsimp only at tried ⊢
  rcases got : Cache.getWith resolve d h with ⟨e, failure | r⟩
  · rw [got] at tried
    cases failure with
    | stuck => exact tried
    | error cause => exact upheld.releaseAll e [h] tried
    | panic message => exact upheld.releaseAll e [h] tried
  · rw [got] at tried
    exact tried

/-- Whatever a script does that only records what it should. -/
theorem runScript {script : LoadScript} (fine : script.Records ok) (taken : List Handle)
    (holds : P c) : P (Cache.runScript resolve script taken c).1 := by
  induction script generalizing taken c with
  | finish payload => exact upheld.releaseAll c _ holds
  | fail cause => exact upheld.releaseAll c taken holds
  | panic message => exact upheld.releaseAll c taken holds
  | record event next ih => exact ih fine.2 taken (upheld.record c event holds fine.1)
  | request key next ih => exact ih _ (fine _) _ (upheld.lazy c key holds)
  | demand key next ih =>
    have loaded := loadWith upheld keeps holds key
    rw [Cache.runScript]
    rcases got : Cache.loadWith resolve c key with ⟨d, failure | h⟩
    · rw [got] at loaded
      cases failure with
      | stuck => exact loaded
      | error cause => exact ih _ (fine _) taken loaded
      | panic message => exact upheld.releaseAll d taken loaded
    · rw [got] at loaded
      exact ih _ (fine _) _ loaded
  | inspect h next ih =>
    have tried := getWith keeps holds h
    rw [Cache.runScript]
    rcases got : Cache.getWith resolve c h with ⟨d, failure | ⟨p, payload⟩⟩
    · rw [got] at tried
      cases failure with
      | stuck => exact tried
      | error cause => exact ih _ (fine _) taken tried
      | panic message => exact upheld.releaseAll d taken tried
    · rw [got] at tried
      exact ih _ (fine _) taken tried

end resolve

theorem waitInVain (holds : P c) (key : Key) : P (c.waitInVain key).1 := by
  unfold Cache.waitInVain
  split
  · exact upheld.record c _ holds (upheld.own _ trivial)
  · exact holds

theorem resolve (depth : Nat) (c : Cache) (id : BlockId) (holds : P c) :
    P (Cache.resolve depth c id).1 := by
  induction depth generalizing c id with
  | zero => exact holds
  | succ depth ih =>
    unfold Cache.resolve
    rcases c.block? id with _ | b
    · exact holds
    · dsimp only
      cases b.slot.look none with
      | take p => exact holds
      | giveUp => exact holds
      | wait since => exact upheld.waitInVain holds b.key
      | claim =>
        obtain ⟨told, fine⟩ := upheld.prepare (upheld.modifySlot c id Slot.claimed holds) b.key
        dsimp only
        rcases prepared : (c.modifySlot id Slot.claimed).prepare b.key with ⟨d, _ | script⟩
        · rw [prepared] at told
          exact upheld.modifySlot d id Slot.failed told
        · rw [prepared] at told fine
          exact upheld.settle (upheld.runScript ih (fine script rfl) [] told) id b.key _

theorem fetch (c : Cache) (id : BlockId) (holds : P c) : P (c.fetch id).1 :=
  upheld.resolve c.depthBound c id holds

theorem get (holds : P c) (h : Handle) : P (c.get h).1 := getWith upheld.fetch holds h

theorem load (holds : P c) (key : Key) : P (c.load key).1 := upheld.loadWith upheld.fetch holds key

end Upheld

end Cache

end TileEngine
