import TileEngine.Loader.Tagged
import TileEngine.Proofs.ByteStream.Refused
import TileEngine.Proofs.Cache.Entries

/-!
The search for a loader. The loaders that support a kind are shown one stream in their order, up to
the first one that accepts it; that one alone decodes the stream, and what becomes of its script is
what becomes of the load. Loaders may do to the stream whatever they like: each finds it at the
start again.
-/

namespace TileEngine

open scoped List

/-- A look of a loader at a stream. -/
structure Look where
  loader : Loader
  shown : ByteStream

namespace Look

/-- What comes of a look. -/
def probe (look : Look) : Probe := look.loader.probe look.shown

/-- The stream as the look has left it, at the start again. -/
def rewound (look : Look) : ByteStream := look.probe.stream.moved 0

/-- What the loaders report of their looks. -/
def reports (looks : List Look) : List Event := looks.flatMap (·.probe.events)

/-- Looks at one stream in turn: each loader is shown what the one before has left, rewound. -/
inductive InTurn : ByteStream → List Look → Prop
  | nil (s : ByteStream) : InTurn s []
  | cons (loader : Loader) {s : ByteStream} {rest : List Look}
      (others : InTurn (loader.probe (s.moved 0)).stream rest) :
      InTurn s (⟨loader, s.moved 0⟩ :: rest)

end Look

/-- A loader that does nothing to a stream when it looks at it but call it. -/
def Loader.OnlyCalls (loader : Loader) : Prop :=
  ∀ s, ∃ calls, (loader.probe s).stream = s.after calls

/-- A search among some loaders for one that accepts a stream. -/
structure Search (candidates : List Loader) (opened : ByteStream) (refused : List Look)
    (taker : Option Look) : Prop where
  turns : Look.InTurn opened (refused ++ taker.toList)
  order : (refused ++ taker.toList).map Look.loader <+: candidates
  refuses : ∀ look ∈ refused, look.probe.accepted = false
  takes : ∀ look ∈ taker, look.probe.accepted = true
  /-- Without one that accepts the stream all have been asked. -/
  all : taker = none → refused.map Look.loader = candidates

/-- What a search comes to. -/
def Choice.ofTaker : Option Look → Choice
  | none => .nobody
  | some look => .chosen look.loader look.rewound

/-- What a caller gets that has run a script to its end. -/
def Outcome.Answers (outcome : Outcome) (key : Key) (answer : Cache × Except Failure PayloadId) :
    Prop :=
  match outcome with
  | .produced payload => ∃ p, answer.2 = .ok p ∧ answer.1.payload? p = some payload
  | .refused _ => answer.2 = .error (.error (.loadFailed key))
  | .halted failure => answer.2 = .error failure

namespace Look

variable {s : ByteStream} {looks : List Look}

theorem InTurn.position (turns : InTurn s looks) : ∀ look ∈ looks, look.shown.position = 0 := by
  induction turns with
  | nil s => simp
  | cons loader _ ih =>
    intro look member
    rcases List.mem_cons.mp member with rfl | later
    · exact ByteStream.position_moved _ 0
    · exact ih look later

end Look

/-! ## Loaders that only call the stream -/

namespace ByteStream

variable {s : ByteStream}

/-- Calls only move a stream. -/
theorem after_eq_moved (settled : s.Settled) (calls : List Call) : ∃ p, s.after calls = s.moved p := by
  induction calls generalizing s with
  | nil => exact ⟨s.position, settled.here.symm⟩
  | cons c rest ih =>
    obtain ⟨p, -, at_p, -⟩ := call_moves settled c
    obtain ⟨q, at_q⟩ := ih (settled.call c)
    refine ⟨q, ?_⟩
    rw [after, List.foldl_cons]
    rw [after, at_p, moved_moved] at at_q
    rw [at_p]
    exact at_q

theorem reached_of_openStream {source : Source} {name : String}
    (opened : source.openStream name = .ok s) : s.Reached ∧ s.position = 0 := by
  cases source with
  | table entries =>
    rw [Source.openStream, NameTable.openStream] at opened
    split at opened
    · cases opened
      exact ⟨.memory _, rfl⟩
    · contradiction
  | directory d =>
    rw [Source.openStream, Directory.openStream] at opened
    split at opened
    · contradiction
    · split at opened
      · contradiction
      · split at opened
        · contradiction
        · split at opened
          · cases opened
            exact ⟨.file _, rfl⟩
          · cases opened
            exact ⟨.directory, rfl⟩
          · contradiction
          · contradiction

/-- A stream that has just been opened is at its start. -/
theorem moved_of_openStream {source : Source} {name : String}
    (opened : source.openStream name = .ok s) : s.Settled ∧ s.moved 0 = s := by
  obtain ⟨reached, start⟩ := reached_of_openStream opened
  refine ⟨reached.settled, ?_⟩
  have here := reached.settled.here
  rwa [start] at here

end ByteStream

namespace Look

variable {s opened : ByteStream} {looks : List Look}

theorem rewound_eq (look : Look) (calls : look.loader.OnlyCalls) (settled : opened.Settled)
    (start : opened.moved 0 = opened) (shown : look.shown = opened) : look.rewound = opened := by
  obtain ⟨made, left⟩ := calls look.shown
  rw [rewound, probe, left, shown]
  obtain ⟨p, at_p⟩ := ByteStream.after_eq_moved settled made
  rw [at_p, ByteStream.moved_moved, start]

/-- Loaders that only call the stream are all shown the stream as it was opened. -/
theorem InTurn.shown (turns : InTurn s looks) (same : s.moved 0 = opened)
    (settled : opened.Settled) (start : opened.moved 0 = opened)
    (calls : ∀ look ∈ looks, look.loader.OnlyCalls) : ∀ look ∈ looks, look.shown = opened := by
  induction turns with
  | nil s => simp
  | @cons loader s rest _ ih =>
    obtain ⟨first, others⟩ := List.forall_mem_cons.mp calls
    have back : (loader.probe (s.moved 0)).stream.moved 0 = opened :=
      rewound_eq ⟨loader, s.moved 0⟩ first settled start same
    intro look member
    rcases List.mem_cons.mp member with rfl | later
    · exact same
    · exact ih back others look later

end Look

/-! ## The search -/

namespace Search

variable {candidates : List Loader} {s : ByteStream} {refused : List Look} {taker : Option Look}

theorem nobody (s : ByteStream) : Search [] s [] none := by
  refine ⟨.nil s, List.prefix_rfl, ?_, ?_, fun _ => rfl⟩
  · simp
  · simp

theorem first {loader : Loader} (rest : List Loader)
    (accepts : (loader.probe (s.moved 0)).accepted = true) :
    Search (loader :: rest) s [] (some ⟨loader, s.moved 0⟩) := by
  refine ⟨.cons loader (.nil _), ⟨rest, rfl⟩, ?_, ?_, nofun⟩
  · simp
  · rintro look ⟨⟩
    exact accepts

theorem next {loader : Loader} (refuses : (loader.probe (s.moved 0)).accepted = false)
    (others : Search candidates (loader.probe (s.moved 0)).stream refused taker) :
    Search (loader :: candidates) s (⟨loader, s.moved 0⟩ :: refused) taker := by
  refine ⟨.cons loader others.turns, ?_, ?_, others.takes, ?_⟩
  · exact List.cons_prefix_cons.mpr ⟨rfl, others.order⟩
  · exact List.forall_mem_cons.mpr ⟨refuses, others.refuses⟩
  · intro all
    exact congrArg (loader :: ·) (others.all all)

end Search

theorem ByteStream.seek_zero (s : ByteStream) : s.seek 0 = (.ok (), s.moved 0) := by
  rw [seek_eq, if_pos (Nat.zero_le _)]

/-- Loaders are chosen by such a search, and what they report of it is all that is reported. -/
theorem Loader.choose_searches (candidates : List Loader) (s : ByteStream) :
    ∃ refused taker, Search candidates s refused taker ∧
      choose candidates s = (Look.reports (refused ++ taker.toList), .ofTaker taker) := by
  induction candidates generalizing s with
  | nil => exact ⟨[], none, .nobody s, rfl⟩
  | cons loader rest ih =>
    simp only [choose, ByteStream.seek_zero]
    cases accepts : (loader.probe (s.moved 0)).accepted with
    | true =>
      refine ⟨[], _, .first rest accepts, ?_⟩
      simp [Look.reports, Choice.ofTaker, Look.rewound, Look.probe]
    | false =>
      obtain ⟨refused, taker, search, chosen⟩ := ih (loader.probe (s.moved 0)).stream
      refine ⟨_, taker, search.next accepts, ?_⟩
      simp [chosen, Look.reports, Look.probe]

/-! ## The load of an entry -/

namespace Cache

/-- The loaders for a key, in the order in which they were added. -/
def candidates (c : Cache) (key : Key) : List Loader := c.loaders.filter (·.supports key.kind)

/-- What a load comes to that no loader takes on; the reason has been put on record. -/
def withoutLoader (c : Cache) (id : BlockId) (key : Key) : Cache × Except Failure PayloadId :=
  (c.abandon id, .error (.error (.loadFailed key)))

/-- How the load of an entry goes on that nobody has loaded. -/
structure Dispatches (nested : Resolver) (c : Cache) (id : BlockId) (key : Key)
    (load : Cache → Cache × Except Failure PayloadId) : Prop where
  /-- Where no loader supports the kind it fails, whatever the source has: no stream is opened. -/
  unsupported : c.candidates key = [] → ∀ source,
    let claimed := ({ c with source := source } : Cache).modifySlot id Slot.claimed
    load { c with source := source } = (claimed.record (.noLoader key)).withoutLoader id key
  /-- So it does where the stream cannot be opened. -/
  unopened : c.candidates key ≠ [] → ∀ cause, c.source.openStream key.name = .error cause →
    let claimed := c.modifySlot id Slot.claimed
    load c = (claimed.record (.notOpened key.name cause)).withoutLoader id key
  /-- Otherwise the loaders are shown the stream, each at its start. -/
  opened : c.candidates key ≠ [] → ∀ opened, c.source.openStream key.name = .ok opened →
    ∃ refused taker, Search (c.candidates key) opened refused taker ∧
      (∀ look ∈ refused ++ taker.toList, look.shown.position = 0 ∧
        ((∀ l ∈ c.loaders, l.OnlyCalls) → look.shown = opened)) ∧
      let claimed := c.modifySlot id Slot.claimed
      let asked := claimed.recordAll (Look.reports (refused ++ taker.toList))
      -- Where all refuse it fails.
      (taker = none → load c = (asked.record (.notAccepted key)).withoutLoader id key) ∧
      -- The one that accepts the stream decodes it from the start, and nobody else does.
      ∀ look ∈ taker,
        let told := asked.recordAll (look.loader.opening look.rewound (c.context key))
        let ran := runScript nested (look.loader.decode look.rewound (c.context key)) [] told
        look.rewound.position = 0 ∧ ((∀ l ∈ c.loaders, l.OnlyCalls) → look.rewound = opened) ∧
          load c = ran.1.settle id key ran.2 ∧ ran.2.Answers key (load c)

variable {c : Cache} {id : BlockId} {key : Key}

theorem payload?_fill (c : Cache) (id : BlockId) (payload : Payload) :
    (c.fill id payload).1.payload? (c.fill id payload).2 = some payload := by
  change Option.map Cell.payload ((c.cells.push _)[c.cells.size]?) = _
  rw [Array.getElem?_push_size]
  rfl

/-- Who has run a script gets what the script has come to. -/
theorem answers_settle (c : Cache) (id : BlockId) (key : Key) (outcome : Outcome) :
    outcome.Answers key (c.settle id key outcome) := by
  cases outcome with
  | produced payload => exact ⟨_, rfl, payload?_fill _ id payload⟩
  | refused cause => rfl
  | halted failure => cases failure <;> rfl

theorem prepare_unsupported (alive : c.open_ = true) (nobody : c.candidates key = []) :
    c.prepare key = (c.record (.noLoader key), none) := by
  rw [candidates] at nobody
  simp [prepare, alive, nobody]

theorem prepare_unopened (alive : c.open_ = true) (somebody : c.candidates key ≠ [])
    {cause : StreamError} (failed : c.source.openStream key.name = .error cause) :
    c.prepare key = (c.record (.notOpened key.name cause), none) := by
  rw [candidates, ← List.isEmpty_eq_false_iff] at somebody
  simp [prepare, alive, somebody, failed]

theorem prepare_opened (alive : c.open_ = true) (somebody : c.candidates key ≠ [])
    {opened : ByteStream} (found : c.source.openStream key.name = .ok opened) :
    ∃ refused taker, Search (c.candidates key) opened refused taker ∧
      let asked := c.recordAll (Look.reports (refused ++ taker.toList))
      c.prepare key =
        match taker with
        | none => (asked.record (.notAccepted key), none)
        | some look =>
          (asked.recordAll (look.loader.opening look.rewound (c.context key)),
            some (look.loader.decode look.rewound (c.context key))) := by
  obtain ⟨refused, taker, search, chosen⟩ := Loader.choose_searches (c.candidates key) opened
  refine ⟨refused, taker, search, ?_⟩
  have same (events : List Event) : (c.recordAll events).context key = c.context key := by
    rw [recordAll_eq]
    rfl
  rw [candidates, ← List.isEmpty_eq_false_iff] at somebody
  rw [candidates] at chosen
  cases taker with
  | none => simp [prepare, alive, somebody, found, chosen, Choice.ofTaker]
  | some look => simp [prepare, alive, somebody, found, chosen, Choice.ofTaker, same]

section

variable {b : Block} {d : Cache} (made : c.block? id = some b) (claims : b.slot.look none = .claim)
  (depth : Nat)

include made claims

theorem resolve_without (prepared : (c.modifySlot id Slot.claimed).prepare b.key = (d, none)) :
    resolve (depth + 1) c id = d.withoutLoader id b.key := by
  simp only [resolve, made, claims, prepared]
  rfl

theorem resolve_with {script : LoadScript}
    (prepared : (c.modifySlot id Slot.claimed).prepare b.key = (d, some script)) :
    resolve (depth + 1) c id =
      (runScript (resolve depth) script [] d).1.settle id b.key
        (runScript (resolve depth) script [] d).2 := by
  simp only [resolve, made, claims, prepared]

/-- For every cache, its loaders doing whatever they like: the load of an entry that nobody has
loaded goes on like that, however deep it is nested itself. -/
theorem load_dispatches (alive : c.open_ = true) :
    Dispatches (resolve depth) c id b.key fun c => resolve (depth + 1) c id := by
  refine ⟨?_, ?_, ?_⟩
  · intro nobody source
    exact resolve_without (c := { c with source := source }) made claims depth
      (prepare_unsupported alive nobody)
  · intro somebody cause failed
    exact resolve_without made claims depth
      (prepare_unopened (c := c.modifySlot id Slot.claimed) alive somebody failed)
  · intro somebody opened found
    obtain ⟨refused, taker, search, prepared⟩ :=
      prepare_opened (c := c.modifySlot id Slot.claimed) alive somebody found
    obtain ⟨settled, start⟩ := ByteStream.moved_of_openStream found
    have registered : ∀ look ∈ refused ++ taker.toList, look.loader ∈ c.loaders := by
      intro look member
      exact List.mem_of_mem_filter (search.order.subset (List.mem_map_of_mem member))
    have shown (calls : ∀ l ∈ c.loaders, l.OnlyCalls) :
        ∀ look ∈ refused ++ taker.toList, look.shown = opened :=
      search.turns.shown start settled start fun look member => calls _ (registered look member)
    refine ⟨refused, taker, search, ?_, ?_, ?_⟩
    · intro look member
      exact ⟨search.turns.position look member, fun calls => shown calls look member⟩
    · rintro rfl
      exact resolve_without made claims depth prepared
    · rintro look ⟨⟩
      have last : look ∈ refused ++ [look] := List.mem_append_right _ (List.mem_singleton.mpr rfl)
      have ran := resolve_with made claims depth prepared
      refine ⟨ByteStream.position_moved _ 0, ?_, ran, ?_⟩
      · intro calls
        have reads := calls _ (registered look last)
        exact look.rewound_eq reads settled start (shown calls look last)
      · rw [ran]
        exact answers_settle _ id b.key _

end

/-- One loader of four is for another kind, the next one refuses, the third one accepts. The last
one would as well, but is not asked. -/
theorem load_dispatches_to_third :
    let text : Key := ⟨"b", .note⟩
    let source : Source := .table [("b", #[66, 104, 105])]
    let loaders : List Tagged :=
      [⟨.sprite, "B", [.sprite]⟩, ⟨.note, "A", [.note]⟩, ⟨.note, "B", [.note]⟩, ⟨.fail, "B", [.note]⟩]
    let c := ((loaders.foldl (fun c t => c.addLoader t.loader) (new source none)).lazy text).1
    Dispatches (resolve 0) c 0 text (fun c => resolve 1 c 0) ∧ c.candidates text ≠ [] ∧
      (resolve 1 c 0).2 = .ok 0 ∧ (resolve 1 c 0).1.payload? 0 = some (.note "hi" []) ∧
      (resolve 1 c 0).1.log.toList.drop c.log.size =
        [.probed "A" 0, .probed "B" 0, .decoding "B" text 0, .loaded text] := by
  intro text source loaders c
  have made : c.block? 0 = some ⟨text, 1, .fresh⟩ := by decide +kernel
  have some_one : c.candidates text ≠ [] := by
    rw [candidates, ← List.isEmpty_eq_false_iff]
    decide +kernel
  exact ⟨load_dispatches made rfl 0 rfl, some_one, by decide +kernel, by decide +kernel,
    by decide +kernel⟩

end Cache

end TileEngine
