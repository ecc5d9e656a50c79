import TileEngine.Loader.World
import TileEngine.Proofs.ByteStream.Contract
import TileEngine.Proofs.Json.Blanks
import TileEngine.Proofs.Loader.Consistent
import Mathlib.Data.List.TakeWhile

/-!
What stands in front of a map document. The loader of maps judges a document by a window of its
first bytes and then decodes all of them. Blanks in front of a document that it takes do not change
the map; but the brace that opens the document moves back by as many bytes, and the loader takes
the document only while the window still shows it. A byte order mark takes three places of the
window in the same way.
-/

namespace TileEngine

namespace Loader

open Cache (Resolver runScript)
open ByteStream (Serves memoryAt serves_memory)

/-- The bytes of a byte order mark. -/
def mark : List UInt8 := [0xEF, 0xBB, 0xBF]

/-- How many blanks a document starts with. -/
def indent (bytes : List UInt8) : Nat := (bytes.takeWhile Json.isBlank).length

/-- The loader of maps accepts a stream and makes a map of it. -/
structure Loads (resolve : Resolver) (context : LoadContext) (c : Cache) (s : ByteStream)
    (m : TileMap) : Prop where
  accepted : (tileMap.probe s).accepted = true
  produced : (runScript resolve (tileMap.decode s context) [] c).2 = .produced (.tileMap m)

variable {blanks lead bytes rest : List UInt8} {b : UInt8}

/-! ## The window -/

theorem isProbeBlank_of_isBlank (white : Json.isBlank b = true) : isProbeBlank b = true := by
  unfold Json.isBlank at white
  unfold isProbeBlank
  grind

theorem isProbeBlank_of_startsValue (starts : Json.startsValue b = true) :
    isProbeBlank b = false := by
  by_contra white
  unfold isProbeBlank at white
  simp only [Bool.not_eq_false, Bool.or_eq_true, beq_iff_eq] at white
  rcases white with (((rfl | rfl) | rfl) | rfl) | rfl <;> contradiction

theorem dropMark_of_head? (other : bytes.head? ≠ some 0xEF) : dropMark bytes = bytes := by
  unfold dropMark
  split
  · exact absurd rfl other
  · rfl

/-- A window on bytes that start with blanks shows what is behind them if it is long enough. -/
theorem find?_take (white : ∀ b ∈ lead, Json.isBlank b = true) (starts : Json.startsValue b = true)
    (rest : List UInt8) (window : Nat) :
    ((lead ++ b :: rest).take window).find? (!isProbeBlank ·) =
      if lead.length < window then some b else none := by
  have skipped (n : Nat) : (lead.take n).find? (!isProbeBlank ·) = none :=
    List.find?_eq_none.mpr fun b there => by
      rw [isProbeBlank_of_isBlank (white b (List.mem_of_mem_take there))]
      decide
  rw [List.take_append, List.find?_append, skipped, Option.none_or]
  split
  · rename_i shown
    obtain ⟨more, behind⟩ := Nat.exists_eq_add_of_lt shown
    have left : window - lead.length = more + 1 := by omega
    rw [left, List.take_succ_cons, List.find?_cons_of_pos]
    rw [isProbeBlank_of_startsValue starts]
    rfl
  · rename_i hidden
    rw [Nat.sub_eq_zero_of_le (Nat.not_lt.mp hidden), List.take_zero]
    rfl

/-- A document opens an object in a window that shows the opening brace. -/
theorem opensObject_take (white : ∀ b ∈ lead, Json.isBlank b = true)
    (starts : Json.startsValue b = true) (rest : List UInt8) (window : Nat) :
    opensObject ((lead ++ b :: rest).take window) =
      (decide (lead.length < window) && b == 0x7B) := by
  have no_mark : ((lead ++ b :: rest).take window).head? ≠ some 0xEF := by
    rw [List.head?_take]
    split
    · exact nofun
    · intro marked
      cases lead with
      | nil =>
        rw [Option.some.inj marked] at starts
        exact absurd starts (by decide)
      | cons first lead =>
        have first_white := white first List.mem_cons_self
        rw [Option.some.inj marked] at first_white
        exact absurd first_white (by decide)
  rw [opensObject, dropMark_of_head? no_mark, find?_take white starts]
  split <;> simp [*]

/-- A mark takes its place in the window. -/
theorem opensObject_mark (white : ∀ b ∈ lead, Json.isBlank b = true)
    (starts : Json.startsValue b = true) (rest : List UInt8) (window : Nat) :
    opensObject ((mark ++ (lead ++ b :: rest)).take (mark.length + window)) =
      (decide (lead.length < window) && b == 0x7B) := by
  have dropped : dropMark (mark ++ (lead ++ b :: rest).take window) =
      (lead ++ b :: rest).take window := rfl
  rw [List.take_length_add_append, opensObject, dropped, find?_take white starts]
  split <;> simp [*]

/-! ## Streams over a document -/

section

variable {data : Array UInt8} {place : Nat → ByteStream} {d : MapDocument}

theorem probe_accepted (served : Serves data place) :
    (tileMap.probe (place 0)).accepted = opensObject (data.toList.take probeWindow) := by
  have looked := ByteStream.peek_eq served (Nat.zero_le _) probeWindow
  have window : (data.extract 0 (0 + min probeWindow (data.size - 0))).toList =
      data.toList.take probeWindow := by
    rw [Nat.zero_add, Nat.sub_zero, Array.toList_extract, List.extract_eq_take_drop, Nat.sub_zero,
      List.drop_zero, List.take_eq_take_iff, Array.length_toList, Nat.min_assoc, Nat.min_self]
  change (probeMap (place 0)).accepted = _
  rw [probeMap, looked, ← window]

theorem readToEnd_start (served : Serves data place) : (place 0).readToEnd.1 = .ok data := by
  rw [ByteStream.readToEnd_eq served (Nat.zero_le _), Array.extract_size]

theorem decode_parsed (served : Serves data place)
    (parsed : MapDocument.ofBytes? data.toList = some d) (context : LoadContext) :
    tileMap.decode (place 0) context = mapScript context.key.name d := by
  change decodeMap (place 0) context = _
  rw [decodeMap, readToEnd_start served]
  dsimp only
  rw [parsed]

end

variable {resolve : Resolver} {context : LoadContext} {c : Cache} {m : TileMap}
  {d : MapDocument} {layer : LayerDocument} {t : TilesetDocument}

/-- A map that was decoded comes from a consistent document. -/
theorem document_of_produced {data : Array UInt8} {place : Nat → ByteStream}
    (served : Serves data place)
    (produced : (runScript resolve (tileMap.decode (place 0) context) [] c).2 =
      .produced (.tileMap m)) :
    ∃ d layer t, MapDocument.ofBytes? data.toList = some d ∧ d.Consistent layer t := by
  cases parsed : MapDocument.ofBytes? data.toList with
  | none =>
    change (runScript resolve (decodeMap (place 0) context) [] c).2 = _ at produced
    rw [decodeMap, readToEnd_start served] at produced
    dsimp only at produced
    rw [parsed] at produced
    contradiction
  | some d =>
    rw [decode_parsed served parsed] at produced
    by_contra none_fits
    have inconsistent : ¬∃ layer t, d.Consistent layer t := by
      rintro ⟨layer, t, consistent⟩
      exact none_fits ⟨d, layer, t, rfl, consistent⟩
    obtain ⟨cause, refused⟩ := run_mapScript_refused inconsistent context.key.name resolve c
    rw [refused] at produced
    contradiction

theorem ofBytes?_append (white : ∀ b ∈ blanks, Json.isBlank b = true)
    (parsed : MapDocument.ofBytes? bytes = some d) :
    MapDocument.ofBytes? (blanks ++ bytes) = some d := by
  obtain ⟨v, read, document⟩ := Option.bind_eq_some_iff.mp parsed
  exact Option.bind_eq_some_iff.mpr ⟨v, Json.readDocument_append white read, document⟩

/-- Blanks in front move the brace of an accepted document back, and so does a mark. -/
theorem opensObject_behind {v : Json.Value} (read : Json.readDocument bytes = some v)
    (opens : opensObject (bytes.take probeWindow) = true)
    (white : ∀ b ∈ blanks, Json.isBlank b = true) :
    (opensObject ((blanks ++ bytes).take probeWindow) = true ↔
      blanks.length + indent bytes < probeWindow) ∧
    (opensObject ((mark ++ bytes).take probeWindow) = true ↔
      mark.length + indent bytes < probeWindow) := by
  obtain ⟨b, rest, start, starts⟩ := Json.readDocument_starts read
  have parts : bytes.takeWhile Json.isBlank ++ b :: rest = bytes :=
    start ▸ List.takeWhile_append_dropWhile
  have lead_white : ∀ b ∈ bytes.takeWhile Json.isBlank, Json.isBlank b = true :=
    fun _ => List.mem_takeWhile_imp
  rw [← parts, opensObject_take lead_white starts, Bool.and_eq_true, beq_iff_eq] at opens
  have all_white : ∀ b ∈ blanks ++ bytes.takeWhile Json.isBlank, Json.isBlank b = true :=
    List.forall_mem_append.mpr ⟨white, lead_white⟩
  have moved := opensObject_take all_white starts rest probeWindow
  have marked := opensObject_mark lead_white starts rest (probeWindow - mark.length)
  rw [List.append_assoc, parts, List.length_append] at moved
  rw [parts, Nat.add_sub_cancel' (by decide)] at marked
  rw [moved, marked, opens.2]
  simp only [indent, beq_self_eq_true, Bool.and_true, decide_eq_true_eq, Nat.lt_sub_iff_add_lt',
    and_self]

/-! ## The same map -/

/-- Two maps with the same size and cells, whose tile sets differ in nothing but the handle to the
image. In the caches that the maps belong to both handles carry one name. -/
structure SameMap (c : Cache) (m : TileMap) (c' : Cache) (m' : TileMap) : Prop where
  size : m'.size = m.size
  cells : m'.cells = m.cells
  tileset : ∃ tiles image, m.tileset = some tiles ∧
    m'.tileset = some { tiles with image := image } ∧ c'.name? image = c.name? tiles.image

/-- A document that becomes a map becomes the same map in every state of the cache. -/
theorem sameMap_run (consistent : d.Consistent layer t) {name : String}
    (produced : (runScript resolve (mapScript name d) [] c).2 = .produced (.tileMap m))
    (resolve' : Resolver) (name' : String) (c' : Cache) :
    ∃ m', (runScript resolve' (mapScript name' d) [] c').2 = .produced (.tileMap m') ∧
      SameMap (runScript resolve (mapScript name d) [] c).1 m
        (runScript resolve' (mapScript name' d) [] c').1 m' := by
  have here := run_mapScript consistent name resolve c
  have there := run_mapScript consistent name' resolve' c'
  rw [here] at produced
  cases produced
  rw [here, there]
  refine ⟨_, rfl, rfl, rfl, _, _, rfl, rfl, ?_⟩
  exact (c'.name?_lazy ⟨t.image, .bitmap⟩).trans (c.name?_lazy ⟨t.image, .bitmap⟩).symm

/-- Blanks in front of a document that the loader of maps accepts and loads do not matter to what
is loaded: the decoder does the same, whatever is asked for, and in every state of the cache it
makes a map with the same size, cells and tile set. The loader still accepts the document exactly
if its opening brace, which has moved back, is in the window of the probe. A byte order mark moves
the brace back in the same way. -/
theorem loads_behind_blanks {place : Array UInt8 → Nat → ByteStream}
    (served : ∀ data, Serves data (place data))
    (loads : Loads resolve context c (place bytes.toArray 0) m)
    (white : ∀ b ∈ blanks, Json.isBlank b = true) :
    ((tileMap.probe (place (blanks ++ bytes).toArray 0)).accepted = true ↔
      blanks.length + indent bytes < probeWindow) ∧
    ((tileMap.probe (place (mark ++ bytes).toArray 0)).accepted = true ↔
      mark.length + indent bytes < probeWindow) ∧
    (∀ context', tileMap.decode (place (blanks ++ bytes).toArray 0) context' =
      tileMap.decode (place bytes.toArray 0) context') ∧
    ∀ resolve' context' c', ∃ m',
      (runScript resolve' (tileMap.decode (place (blanks ++ bytes).toArray 0) context') [] c').2 =
        .produced (.tileMap m') ∧
      SameMap (runScript resolve (tileMap.decode (place bytes.toArray 0) context) [] c).1 m
        (runScript resolve' (tileMap.decode (place (blanks ++ bytes).toArray 0) context') [] c').1
        m' := by
  obtain ⟨accepted, produced⟩ := loads
  obtain ⟨d, layer, t, parsed, consistent⟩ := document_of_produced (served _) produced
  obtain ⟨v, read, -⟩ := Option.bind_eq_some_iff.mp parsed
  have plain := decode_parsed (served _) parsed
  have behind := decode_parsed (served (blanks ++ bytes).toArray) (ofBytes?_append white parsed)
  rw [probe_accepted (served _)] at accepted
  obtain ⟨moved, marked⟩ := opensObject_behind read accepted white
  rw [probe_accepted (served _), probe_accepted (served _)]
  refine ⟨moved, marked, fun context' => (behind context').trans (plain context').symm, ?_⟩
  intro resolve' context' c'
  rw [plain] at produced ⊢
  rw [behind]
  exact sameMap_run consistent produced resolve' context'.key.name c'

/-- A document that opens an object and is consistent loads. -/
theorem loads_of_consistent {data : Array UInt8} {place : Nat → ByteStream}
    (served : Serves data place) (opens : opensObject (data.toList.take probeWindow) = true)
    (parsed : MapDocument.ofBytes? data.toList = some d) (consistent : d.Consistent layer t)
    (resolve : Resolver) (context : LoadContext) (c : Cache) :
    ∃ m, Loads resolve context c (place 0) m := by
  have produced := congrArg Prod.snd (run_mapScript consistent context.key.name resolve c)
  rw [← decode_parsed served parsed context] at produced
  exact ⟨_, (probe_accepted served).trans opens, produced⟩

/-- A map of one row with an empty cell and the last tile of three. -/
def oneRow : List UInt8 :=
  Text.encode <|
    "\x7b\"width\":2,\"height\":1,\"layers\":[\x7b\"width\":2,\"height\":1,\"data\":[0,3]\x7d]," ++
    "\"tilesets\":[\x7b\"image\":\"t\",\"tilecount\":3,\"tilewidth\":8,\"tileheight\":8\x7d]\x7d"

theorem loads_oneRow (resolve : Resolver) (context : LoadContext) (c : Cache) :
    ∃ m, Loads resolve context c (memoryAt oneRow.toArray 0) m := by
  have opens : opensObject (oneRow.take probeWindow) = true := by decide +kernel
  have parsed : MapDocument.ofBytes? oneRow =
      some ⟨2, 1, [⟨2, 1, [0, 3]⟩], [⟨1, "t", 3, 8, 8, 0, 0, none⟩]⟩ := by decide +kernel
  have consistent : MapDocument.Consistent
      ⟨2, 1, [⟨2, 1, [0, 3]⟩], [⟨1, "t", 3, 8, 8, 0, 0, none⟩]⟩ ⟨2, 1, [0, 3]⟩
      ⟨1, "t", 3, 8, 8, 0, 0, none⟩ := ⟨rfl, rfl, rfl, rfl, rfl, .inr (by decide)⟩
  exact loads_of_consistent (serves_memory _) opens parsed consistent resolve context c

/-- The row behind as many blanks as leave it in the window, and behind one more, which the loader
does not accept. -/
theorem loads_behind_blanks_one_row :
    let c := Cache.new (.table []) none
    let context : LoadContext := ⟨⟨"m", .tileMap⟩, false⟩
    ∃ m, (∀ data, Serves data (memoryAt data)) ∧
      Loads Cache.fetch context c (memoryAt oneRow.toArray 0) m ∧
      (∀ b ∈ List.replicate 63 0x20, Json.isBlank b = true) ∧
      Loads Cache.fetch context c
        (memoryAt (List.replicate 63 0x20 ++ oneRow).toArray 0) m := by
  intro c context
  obtain ⟨m, loads⟩ := loads_oneRow Cache.fetch context c
  have white : ∀ b ∈ List.replicate 63 0x20, Json.isBlank b = true := by
    intro b member
    rw [List.eq_of_mem_replicate member]
    rfl
  obtain ⟨moved, -, same, -⟩ := loads_behind_blanks serves_memory loads white
  refine ⟨m, serves_memory, loads, white, moved.mpr (by decide +kernel), ?_⟩
  rw [same]
  exact loads.produced

/-- Sixty-four blanks fill the window, and the loader refuses what it would load without them. -/
theorem not_loads_behind_window :
    let c := Cache.new (.table []) none
    let context : LoadContext := ⟨⟨"m", .tileMap⟩, false⟩
    (∃ m, Loads Cache.fetch context c (memoryAt oneRow.toArray 0) m) ∧
      (∀ b ∈ List.replicate 64 0x20, Json.isBlank b = true) ∧
      ¬∃ m, Loads Cache.fetch context c
        (memoryAt (List.replicate 64 0x20 ++ oneRow).toArray 0) m := by
  intro c context
  have hidden : opensObject ((List.replicate 64 0x20 ++ oneRow).take probeWindow) = false := by
    decide +kernel
  refine ⟨loads_oneRow _ _ _, ?_, ?_⟩
  · intro b member
    rw [List.eq_of_mem_replicate member]
    rfl
  · rintro ⟨m, accepted, -⟩
    rw [probe_accepted (serves_memory _), hidden] at accepted
    contradiction

end Loader

end TileEngine
