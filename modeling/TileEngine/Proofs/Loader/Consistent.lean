import TileEngine.Loader.World
import TileEngine.Proofs.Cache.Entries
import TileEngine.Proofs.Bitmap.Store
import TileEngine.Proofs.Geometry.Clip

/-!
Loaded maps. A document becomes a map exactly if its first layer covers it and has no number past
the end of its first tile set. The map then shows the layer, row by row, and its tile set knows
every tile that is on the map. The image of the tile set is only asked for.
-/

namespace TileEngine

/-! ## Tile numbers -/

instance lawfulOrderSupWord : Std.LawfulOrderSup UInt16 where
  max_le_iff a b c := by
    have larger : max a b = if a ≤ b then b else a := rfl
    rw [larger]
    simp only [UInt16.le_iff_toNat_le]
    split <;> omega

/-- The largest number in a layer, zero if it has no cells. -/
def LayerDocument.highest (layer : LayerDocument) : UInt16 := layer.data.max?.getD 0

theorem LayerDocument.foldl_max (layer : LayerDocument) :
    layer.data.foldl max 0 = layer.highest := by
  unfold highest
  cases layer.data with
  | nil => rfl
  | cons gid rest =>
    have least : max 0 gid = gid := if_pos UInt16.zero_le
    rw [List.foldl_cons, least, List.max?_cons']
    rfl

theorem LayerDocument.le_highest {layer : LayerDocument} {gid : UInt16} (member : gid ∈ layer.data) :
    gid ≤ layer.highest := by
  unfold highest
  cases largest : layer.data.max? with
  | none => simp [List.max?_eq_none_iff.mp largest] at member
  | some most => exact (List.max?_le_iff largest).mp (UInt16.le_refl most) gid member

/-- A number below the end of a tile set stands for a tile of it, if for any. -/
theorem Tileset.tileForGid_lt {t : Tileset} {gid tile : UInt16}
    (known : gid = 0 ∨ gid.toNat < t.firstGid.toNat + t.tileCount.toNat)
    (found : t.tileForGid gid = some tile) : tile < t.tileCount := by
  unfold tileForGid at found
  split at found
  · contradiction
  · rename_i past
    simp only [Bool.or_eq_true, decide_eq_true_eq, not_or, UInt16.not_lt] at past
    have below := known.resolve_left past.1
    rw [← Option.some.inj found, UInt16.lt_iff_toNat_lt, UInt16.toNat_sub_of_le _ _ past.2]
    have := UInt16.le_iff_toNat_le.mp past.2
    omega

/-! ## Writing the cells -/

namespace TileMap

variable {m : TileMap} {i : Nat}

/-- The way to the `i`-th cell in row order: there is something to divide by, quotient and
remainder are words, and the cell that they name is the `i`-th one and there. -/
structure Addressed (m : TileMap) (i : Nat) : Prop where
  divisor : 0 < m.size.x.toNat
  column : i % m.size.x.toNat < 65536
  row : i / m.size.x.toNat < 65536
  position : m.rowMajor i = Vec2.ofNats (i % m.size.x.toNat) (i / m.size.x.toNat)
  place : m.place? (m.rowMajor i) = some i
  cell : i < m.cells.size

theorem addressed (complete : m.cells.size = m.size.area) (there : i < m.size.area) :
    m.Addressed i := by
  have wide : 0 < m.size.x.toNat := Nat.pos_of_mul_pos_right (Nat.zero_lt_of_lt there)
  have column : i % m.size.x.toNat < m.size.x.toNat := Nat.mod_lt i wide
  have row : i / m.size.x.toNat < m.size.y.toNat := Nat.div_lt_of_lt_mul there
  have position : m.rowMajor i = Vec2.ofNats (i % m.size.x.toNat) (i / m.size.x.toNat) := by
    rw [rowMajor, Nat.max_eq_right wide]
    rfl
  refine ⟨wide, Nat.lt_trans column m.size.x.toNat_lt, Nat.lt_trans row m.size.y.toNat_lt,
    position, ?_, complete ▸ there⟩
  rw [place?, position, if_pos (Vec2.inside_ofNats column row), Vec2.toNat_ofNats_x column,
    Vec2.toNat_ofNats_y row, Nat.mul_comm, Nat.div_add_mod]

theorem setTile_size (m : TileMap) (p : Vec2) (gid : UInt16) :
    (m.setTile p gid).1.size = m.size ∧ (m.setTile p gid).1.cells.size = m.cells.size := by
  unfold setTile
  split
  · exact ⟨rfl, Array.size_setIfInBounds⟩
  · exact ⟨rfl, rfl⟩

theorem setTiles_size (m : TileMap) (i : Nat) (gids : List UInt16) :
    (m.setTiles i gids).1.size = m.size ∧ (m.setTiles i gids).1.cells.size = m.cells.size := by
  induction gids generalizing m i with
  | nil => exact ⟨rfl, rfl⟩
  | cons gid rest ih =>
    obtain ⟨size, cells⟩ := m.setTile_size (m.rowMajor i) gid
    obtain ⟨later_size, later_cells⟩ := ih (m.setTile (m.rowMajor i) gid).1 (i + 1)
    exact ⟨later_size.trans size, later_cells.trans cells⟩

/-- Numbers fill the rest of the map, behind those that are done. -/
theorem setTiles_eq {size : Vec2} {tileset : Option Tileset} (done hole rest : List UInt16)
    (same : rest.length = hole.length) (complete : (done ++ hole).length = size.area) :
    setTiles ⟨size, (done ++ hole).toArray, tileset⟩ done.length rest =
      (⟨size, (done ++ rest).toArray, tileset⟩, true) := by
  induction rest generalizing done hole with
  | nil =>
    rw [List.eq_nil_of_length_eq_zero same.symm]
    rfl
  | cons gid rest ih =>
    obtain ⟨old, hole, rfl⟩ := List.exists_cons_of_length_eq_add_one same.symm
    have next := ih (done ++ [gid]) hole (by simpa using same) (by simpa using complete)
    have here := addressed (m := ⟨size, (done ++ old :: hole).toArray, tileset⟩) (i := done.length)
      (by simpa using complete) (by simp [← complete])
    rw [setTiles, setTile, here.place]
    simp only [List.setIfInBounds_toArray, List.set_append_right, Nat.le_refl, Nat.sub_self,
      List.set_cons_zero]
    simp only [List.append_assoc, List.singleton_append, List.length_append, List.length_singleton]
      at next
    rw [next]
    rfl

/-- A list with a number for each cell becomes the map. -/
theorem setTiles_new {size : Vec2} {gids : List UInt16} (complete : gids.length = size.area) :
    (new size).setTiles 0 gids = (⟨size, gids.toArray, none⟩, true) := by
  have empty : new size = ⟨size, (List.replicate size.area 0).toArray, none⟩ := by
    rw [new, List.toArray_replicate]
  rw [empty]
  exact setTiles_eq [] (List.replicate size.area 0) gids (by simpa using complete) (by simp)

/-- A map with a number for each cell shows them row by row. -/
theorem tile?_eq {size : Vec2} {gids : List UInt16} (complete : gids.length = size.area)
    (tileset : Option Tileset) (p : Vec2) :
    tile? ⟨size, gids.toArray, tileset⟩ p =
      if p.inside size then gids[p.y.toNat * size.x.toNat + p.x.toNat]? else none := by
  unfold tile? place?
  split
  · rename_i inside
    obtain ⟨right, below⟩ := Vec2.inside_iff.mp inside
    have there : p.y.toNat * size.x.toNat + p.x.toNat < gids.length :=
      address_lt below right complete
    simp [there]
  · rfl

end TileMap

/-! ## Documents -/

namespace MapDocument

/-- What a document must say to become a map: its first layer covers it, and the numbers in that
layer end where its first tile set ends. -/
structure Consistent (d : MapDocument) (layer : LayerDocument) (t : TilesetDocument) : Prop where
  first : d.layers.head? = some layer
  tileset : d.tilesets.head? = some t
  width : layer.width = d.width
  height : layer.height = d.height
  cells : layer.data.length = d.width.toNat * d.height.toNat
  known : layer.highest = 0 ∨ layer.highest.toNat < t.firstGid.toNat + t.tileCount.toNat

/-- A map is what a document says, over an image. -/
structure Describes (d : MapDocument) (layer : LayerDocument) (t : TilesetDocument) (image : Handle)
    (m : TileMap) : Prop where
  size : m.size = ⟨d.width, d.height⟩
  cells : m.cells = layer.data.toArray
  tile : ∀ p, m.tile? p =
    if p.inside m.size then layer.data[p.y.toNat * d.width.toNat + p.x.toNat]? else none
  tileset : m.tileset = some ⟨image, ⟨t.tileWidth, t.tileHeight⟩, t.tileCount, t.firstGid, t.margin,
    t.spacing, t.columns⟩
  known : ∀ p gid tile, m.tile? p = some gid →
    m.tileset.bind (·.tileForGid gid) = some tile → tile < t.tileCount

variable {d : MapDocument} {layer : LayerDocument} {t : TilesetDocument}

/-- It is enough that the largest number is known. -/
theorem Consistent.known_of_mem (consistent : d.Consistent layer t) {gid : UInt16}
    (member : gid ∈ layer.data) : gid = 0 ∨ gid.toNat < t.firstGid.toNat + t.tileCount.toNat := by
  have below := LayerDocument.le_highest member
  rcases consistent.known with empty | within
  · exact .inl (UInt16.le_zero_iff.mp (empty ▸ below))
  · exact .inr (Nat.lt_of_le_of_lt (UInt16.le_iff_toNat_le.mp below) within)

theorem Consistent.describes (consistent : d.Consistent layer t) (image : Handle) :
    d.Describes layer t image
      ⟨⟨d.width, d.height⟩, layer.data.toArray, some (Loader.tilesetOf t image)⟩ := by
  have complete : layer.data.length = (Vec2.mk d.width d.height).area := consistent.cells
  have tile := TileMap.tile?_eq complete (some (Loader.tilesetOf t image))
  refine ⟨rfl, rfl, tile, rfl, ?_⟩
  intro p gid number here found
  rw [tile p] at here
  split at here
  · exact Tileset.tileForGid_lt (consistent.known_of_mem (List.mem_of_getElem? here)) found
  · contradiction

end MapDocument

namespace Cache

theorem releaseAll_nil (c : Cache) : c.releaseAll [] = c := by
  unfold releaseAll
  cases ([] : List Handle).length + c.handleCount with
  | zero => rfl
  | succ steps => rfl

/-- A handle that was taken for a key carries its name. -/
theorem name?_lazy (c : Cache) (key : Key) : (c.lazy key).1.name? (c.lazy key).2 = some key.name := by
  obtain ⟨id, refers, has⟩ := key?_lazy c key
  obtain ⟨b, made, same⟩ := key?_eq_some_iff.mp has
  rw [name?, entry?, refers, Option.bind_some, made, ← same]
  rfl

end Cache

namespace Loader

open Cache (Resolver runScript)

variable {d : MapDocument} {layer : LayerDocument} {t : TilesetDocument}

theorem checkDocument_eq_ok {name : String} :
    checkDocument name d = .ok (layer, t) ↔
      d.layers.head? = some layer ∧ layer.width = d.width ∧ layer.height = d.height ∧
        layer.data.length = d.width.toNat * d.height.toNat ∧ d.tilesets.head? = some t := by
  unfold checkDocument
  cases d.layers.head? with
  | none => exact ⟨nofun, nofun⟩
  | some first =>
    dsimp only
    split
    · rename_i sized
      refine ⟨nofun, ?_⟩
      rintro ⟨⟨⟩, width, height, -⟩
      simp [width, height] at sized
    · rename_i sized
      split
      · rename_i counted
        refine ⟨nofun, ?_⟩
        rintro ⟨⟨⟩, -, -, cells, -⟩
        simp [Vec2.area, cells] at counted
      · rename_i counted
        simp only [Bool.or_eq_true, bne_iff_ne, not_or, not_not] at sized counted
        cases d.tilesets.head? with
        | none => exact ⟨nofun, nofun⟩
        | some set =>
          constructor
          · intro same
            cases same
            exact ⟨rfl, sized.1, sized.2, counted, rfl⟩
          · rintro ⟨⟨⟩, -, -, -, ⟨⟩⟩
            rfl

/-- The cells of a layer that covers its document become a map, unless the layer goes past the end
of the tile set. -/
theorem mapOf_eq (complete : layer.data.length = d.width.toNat * d.height.toNat) (image : Handle) :
    mapOf d layer t image =
      if layer.highest = 0 ∨ layer.highest.toNat < t.firstGid.toNat + t.tileCount.toNat then
        .ok ⟨⟨d.width, d.height⟩, layer.data.toArray, some (tilesetOf t image)⟩
      else .error (.unknownTiles layer.highest t.tileCount) := by
  have highest : (TileMap.mk ⟨d.width, d.height⟩ layer.data.toArray none).highest =
      layer.highest := by
    change layer.data.toArray.foldl max 0 = layer.highest
    rw [List.foldl_toArray, layer.foldl_max]
  unfold mapOf
  rw [TileMap.setTiles_new complete]
  dsimp only
  rw [highest]
  by_cases known : layer.highest = 0 ∨ layer.highest.toNat < t.firstGid.toNat + t.tileCount.toNat
  · rw [if_pos known, if_neg (by simpa [or_iff_not_imp_left] using known)]
  · rw [if_neg known, if_pos (by simpa using known)]

/-- A consistent document becomes a map. The handle to the image stays with it, and nothing else has
happened to the cache than that this handle was taken. -/
theorem run_mapScript (consistent : d.Consistent layer t) (name : String) (resolve : Resolver)
    (c : Cache) :
    runScript resolve (mapScript name d) [] c =
      ((c.lazy ⟨t.image, .bitmap⟩).1.record (.mapDecoded name),
        .produced (.tileMap ⟨⟨d.width, d.height⟩, layer.data.toArray,
          some (tilesetOf t (c.lazy ⟨t.image, .bitmap⟩).2)⟩)) := by
  have checked : checkDocument name d = .ok (layer, t) :=
    checkDocument_eq_ok.mpr ⟨consistent.first, consistent.width, consistent.height,
      consistent.cells, consistent.tileset⟩
  have nothing_left (h : Handle) : (List.erase [h] h) = [] := List.erase_cons_head ..
  unfold mapScript
  rw [checked]
  simp only [runScript, mapOf_eq consistent.cells, if_pos consistent.known, Payload.handles,
    tilesetOf, List.nil_append, List.foldl_cons, List.foldl_nil, nothing_left, Cache.releaseAll_nil]

/-- Any other document is refused. -/
theorem run_mapScript_refused (inconsistent : ¬∃ layer t, d.Consistent layer t) (name : String)
    (resolve : Resolver) (c : Cache) :
    ∃ cause, (runScript resolve (mapScript name d) [] c).2 = .refused cause := by
  unfold mapScript
  cases checked : checkDocument name d with
  | error cause => exact ⟨cause, rfl⟩
  | ok parts =>
    obtain ⟨layer, t⟩ := parts
    obtain ⟨first, width, height, cells, tileset⟩ := checkDocument_eq_ok.mp checked
    have unknown :
        ¬(layer.highest = 0 ∨ layer.highest.toNat < t.firstGid.toNat + t.tileCount.toNat) :=
      fun known => inconsistent ⟨layer, t, first, tileset, width, height, cells, known⟩
    refine ⟨.unknownTiles layer.highest t.tileCount, ?_⟩
    simp only [runScript, mapOf_eq cells, if_neg unknown]

/-- A document that a loader of maps has read becomes a map exactly if it is consistent. The map
is then as the document describes it, over a handle that carries the name of the image; taking
that handle and reporting the map is all that has happened to the cache, so no image was loaded.
Any other document is refused. As soon as the document is checked, every cell that is written
is one of the map, and there is something to divide by. -/
theorem decodeMap_consistent {s : ByteStream} {bytes : Array UInt8} {d : MapDocument}
    (read : s.readToEnd.1 = .ok bytes) (parsed : MapDocument.ofBytes? bytes.toList = some d)
    (context : LoadContext) (resolve : Resolver) (c : Cache) :
    ((∃ m, (runScript resolve (decodeMap s context) [] c).2 = .produced (.tileMap m)) ↔
      ∃ layer t, d.Consistent layer t) ∧
    (∀ layer t, d.Consistent layer t → ∃ image m,
      runScript resolve (decodeMap s context) [] c =
        ((c.lazy ⟨t.image, .bitmap⟩).1.record (.mapDecoded context.key.name),
          .produced (.tileMap m)) ∧
      d.Describes layer t image m ∧ image.kind = .bitmap ∧
      (runScript resolve (decodeMap s context) [] c).1.name? image = some t.image) ∧
    ((¬∃ layer t, d.Consistent layer t) →
      ∃ cause, (runScript resolve (decodeMap s context) [] c).2 = .refused cause) ∧
    ∀ layer t, checkDocument context.key.name d = .ok (layer, t) → ∀ i < layer.data.length,
      ((TileMap.new ⟨d.width, d.height⟩).setTiles 0 (layer.data.take i)).1.Addressed i := by
  have script : decodeMap s context = mapScript context.key.name d := by
    unfold decodeMap
    rw [read]
    dsimp only
    rw [parsed]
  rw [script]
  refine ⟨⟨?_, ?_⟩, ?_, fun inconsistent => run_mapScript_refused inconsistent _ resolve c, ?_⟩
  · rintro ⟨m, made⟩
    by_contra inconsistent
    obtain ⟨cause, refused⟩ := run_mapScript_refused inconsistent context.key.name resolve c
    rw [refused] at made
    contradiction
  · rintro ⟨layer, t, consistent⟩
    exact ⟨_, congrArg Prod.snd (run_mapScript consistent _ resolve c)⟩
  · intro layer t consistent
    have ran := run_mapScript consistent context.key.name resolve c
    refine ⟨_, _, ran, consistent.describes _, rfl, ?_⟩
    rw [ran]
    exact c.name?_lazy ⟨t.image, .bitmap⟩
  · intro layer t checked i there
    obtain ⟨-, -, -, cells, -⟩ := checkDocument_eq_ok.mp checked
    obtain ⟨size, written⟩ :=
      (TileMap.new ⟨d.width, d.height⟩).setTiles_size 0 (layer.data.take i)
    apply TileMap.addressed
    · rw [written, size]
      exact Array.size_replicate
    · rw [size]
      exact Nat.lt_of_lt_of_eq there cells

/-- A map of one row with an empty cell and the last tile of three. -/
theorem decodeMap_consistent_last_tile :
    let text :=
      "\x7b\"width\":2,\"height\":1,\"layers\":[\x7b\"width\":2,\"height\":1,\"data\":[0,3]\x7d]," ++
      "\"tilesets\":[\x7b\"image\":\"t\",\"tilecount\":3,\"tilewidth\":8,\"tileheight\":8\x7d]\x7d"
    let s := ByteStream.memory (.ofBytes (Text.encode text).toArray)
    let d : MapDocument := ⟨2, 1, [⟨2, 1, [0, 3]⟩], [⟨1, "t", 3, 8, 8, 0, 0, none⟩]⟩
    let c := Cache.new (.table []) none
    s.readToEnd.1 = .ok (Text.encode text).toArray ∧
      MapDocument.ofBytes? (Text.encode text) = some d ∧
      ∃ m, (runScript Cache.fetch (decodeMap s ⟨⟨"m", .tileMap⟩, false⟩) [] c).2 =
        .produced (.tileMap m) := by
  intro text s d c
  have read : s.readToEnd.1 = .ok (Text.encode text).toArray := by decide +kernel
  have parsed : MapDocument.ofBytes? (Text.encode text) = some d := by decide +kernel
  have consistent : d.Consistent ⟨2, 1, [0, 3]⟩ ⟨1, "t", 3, 8, 8, 0, 0, none⟩ :=
    ⟨rfl, rfl, rfl, rfl, rfl, .inr (by decide)⟩
  have loads := (decodeMap_consistent read (by simpa using parsed) ⟨⟨"m", .tileMap⟩, false⟩
    Cache.fetch c).1
  exact ⟨read, parsed, loads.mpr ⟨_, _, consistent⟩⟩

end Loader

end TileEngine
