import TileEngine.Cache.Draw
import TileEngine.Proofs.Bitmap.Repaint
import TileEngine.Proofs.Tile.Cells

/-!
What drawing a map shows. Every cell is one blit at most. One that shows nothing at a
position leaves it alone, however its blit gets to the others, and so only the cell that the
position falls into changes it. Therefore it does not matter in which order cells are drawn. The
first cell that is a fault ends the drawing; the cells before it are drawn as ever.
-/

namespace TileEngine

open scoped List

namespace TileMap

/-- Draws one cell that is no fault. -/
def paintCell (m : TileMap) (t : Tileset) (image : Bitmap) (origin : Vec2) (x y : Nat)
    (destination : Bitmap) : Bitmap :=
  match m.cellBlit? t image.size origin x y with
  | some (r, corner) => destination.blit image r corner
  | none => destination

/-- Draws some cells that are no faults in the order in which they are listed. -/
def paintCells (m : TileMap) (t : Tileset) (image : Bitmap) (origin : Vec2)
    (cells : List (Nat × Nat)) (destination : Bitmap) : Bitmap :=
  cells.foldl (fun out cell => m.paintCell t image origin cell.1 cell.2 out) destination

variable {m : TileMap} {t : Tileset} {image destination out : Bitmap} {origin q s : Vec2}
  {x y : Nat} {cells : List (Nat × Nat)}

/-- Drawing one cell ends in its fault, or else paints it. -/
theorem drawCell_eq (m : TileMap) (t : Tileset) (image : Bitmap) (origin : Vec2) (x y : Nat)
    (out : Bitmap) :
    m.drawCell t image origin x y out =
      match m.cellFault? t image.size origin x y with
      | some fault => .error fault
      | none => .ok (m.paintCell t image origin x y out) := by
  have cell : (⟨x.toUInt16, y.toUInt16⟩ : Vec2) = Vec2.ofNats x y := rfl
  unfold drawCell paintCell cellBlit? cellFault? Tileset.drawTile Tileset.rectangle?
  rw [cell]
  cases m.tile? (Vec2.ofNats x y) with
  | none => rfl
  | some gid =>
    cases empty : t.tileForGid gid with
    | none => simp [empty]
    | some tile =>
      cases cellPosition? t origin x y with
      | none => simp [empty]
      | some corner =>
        cases found : t.tileRect? tile image.size.x with
        | error fault => simp [empty, found]
        | ok r =>
          cases r with
          | none => simp [empty, found]
          | some r => simp [empty, found]

/-- Cells that are no faults are painted, and then come the others. -/
theorem drawCells_append (clear : m.Clear t image.size origin cells) (rest : List (Nat × Nat))
    (out : Bitmap) :
    m.drawCells t image origin (cells ++ rest) out =
      m.drawCells t image origin rest (m.paintCells t image origin cells out) := by
  induction cells generalizing out with
  | nil => rfl
  | cons cell cells ih =>
    obtain ⟨first, others⟩ := List.forall_mem_cons.mp clear
    rw [List.cons_append, drawCells, drawCell_eq, first]
    exact ih others (m.paintCell t image origin cell.1 cell.2 out)

theorem drawCells_of_clear (clear : m.Clear t image.size origin cells) (out : Bitmap) :
    m.drawCells t image origin cells out = (m.paintCells t image origin cells out, .ok ()) := by
  have drawn := drawCells_append clear [] out
  rwa [List.append_nil] at drawn

/-- Nothing is drawn from the first fault on. -/
theorem drawCells_of_fault {fault : PlaceFault} (clear : m.Clear t image.size origin cells)
    (stops : m.cellFault? t image.size origin x y = some fault) (rest : List (Nat × Nat))
    (out : Bitmap) :
    m.drawCells t image origin (cells ++ (x, y) :: rest) out =
      (m.paintCells t image origin cells out, .error fault) := by
  rw [drawCells_append clear, drawCells, drawCell_eq, stops]

/-- Cells that are not all clear have a first one that is a fault. -/
theorem exists_first_fault (faulty : ¬m.Clear t s origin cells) :
    ∃ before cell after fault, cells = before ++ cell :: after ∧ m.Clear t s origin before ∧
      m.cellFault? t s origin cell.1 cell.2 = some fault := by
  induction cells with
  | nil => exact absurd (List.forall_mem_nil _) faulty
  | cons first rest ih =>
    cases here : m.cellFault? t s origin first.1 first.2 with
    | some fault => exact ⟨[], first, rest, fault, rfl, List.forall_mem_nil _, here⟩
    | none =>
      obtain ⟨before, cell, after, fault, parts, clear, stops⟩ :=
        ih fun clear => faulty (List.forall_mem_cons.mpr ⟨here, clear⟩)
      exact ⟨first :: before, cell, after, fault, congrArg (first :: ·) parts,
        List.forall_mem_cons.mpr ⟨here, clear⟩, stops⟩

/-- Painting one cell is one blit, or nothing at all. -/
theorem paintCell_cases (m : TileMap) (t : Tileset) (image : Bitmap) (origin : Vec2) (x y : Nat) :
    (∀ out, m.paintCell t image origin x y out = out) ∧
        (∀ q, m.cellPixel t image.size origin x y q = none) ∨
      ∃ r corner, (∀ out, m.paintCell t image origin x y out = out.blit image r corner) ∧
        ∀ q, m.cellPixel t image.size origin x y q = r.sourceOf image.size corner q := by
  unfold paintCell cellPixel
  cases m.cellBlit? t image.size origin x y with
  | none => exact .inl ⟨fun _ => rfl, fun _ => rfl⟩
  | some blit => exact .inr ⟨blit.1, blit.2, fun _ => rfl, fun _ => rfl⟩

section canvas

variable (image_wf : image.WellFormed)
  (theirs : destination.depth.isIndexed → image.depth.isIndexed → image.IndexesInPalette)

include image_wf theirs

theorem canvas_paintCell (canvas : Bitmap.Canvas destination out) (x y : Nat) :
    Bitmap.Canvas destination (m.paintCell t image origin x y out) := by
  rcases paintCell_cases m t image origin x y with ⟨draws, -⟩ | ⟨r, corner, draws, -⟩
  · rw [draws]
    exact canvas
  · rw [draws]
    exact canvas.blit image_wf theirs r corner

variable (m t origin) in
theorem canvas_paintCells (canvas : Bitmap.Canvas destination out) (cells : List (Nat × Nat)) :
    Bitmap.Canvas destination (m.paintCells t image origin cells out) := by
  induction cells generalizing out with
  | nil => exact canvas
  | cons cell rest ih => exact ih (canvas_paintCell image_wf theirs canvas cell.1 cell.2)

/-- A cell that shows nothing at a position leaves it alone. -/
theorem colorAt_paintCell_frame (canvas : Bitmap.Canvas destination out)
    (inside : q.inside destination.size = true)
    (nothing : m.cellPixel t image.size origin x y q = none) :
    (m.paintCell t image origin x y out).colorAt q = out.colorAt q := by
  rcases paintCell_cases m t image origin x y with ⟨draws, -⟩ | ⟨r, corner, draws, pixel⟩
  · rw [draws]
  · rw [draws]
    exact canvas.colorAt_blit_frame image_wf theirs inside (pixel q ▸ nothing)

theorem colorAt_paintCell_shown (canvas : Bitmap.Canvas destination out)
    (inside : q.inside destination.size = true)
    (shows : m.cellPixel t image.size origin x y q = some s) :
    (m.paintCell t image origin x y out).colorAt q =
      (image.colorAt s).map fun color => destination.decode (destination.encode color) := by
  rcases paintCell_cases m t image origin x y with ⟨-, nothing⟩ | ⟨r, corner, draws, pixel⟩
  · rw [nothing q] at shows
    contradiction
  · rw [draws]
    exact canvas.colorAt_blit_taken image_wf theirs inside (pixel q ▸ shows)

/-- Only the cell that a position falls into may change the colour there. -/
theorem colorAt_paintCell_elsewhere (canvas : Bitmap.Canvas destination out)
    (inside : q.inside destination.size = true) (elsewhere : (x, y) ≠ t.cellAt origin q) :
    (m.paintCell t image origin x y out).colorAt q = out.colorAt q := by
  refine colorAt_paintCell_frame image_wf theirs canvas inside ?_
  by_contra shows
  obtain ⟨s, shows⟩ := Option.ne_none_iff_exists'.mp shows
  exact elsewhere (cell_of_cellPixel shows).2

variable (wide : 0 < t.tileSize.x.toNat) (high : 0 < t.tileSize.y.toNat)

include wide high

/-- Nothing changes where the map has no pixel, or one of a cell that is not drawn. -/
theorem colorAt_paintCells_frame (canvas : Bitmap.Canvas destination out)
    (inside : q.inside destination.size = true)
    (nothing : m.pixelFor t image.size origin q = none ∨ t.cellAt origin q ∉ cells) :
    (m.paintCells t image origin cells out).colorAt q = out.colorAt q := by
  have shows_nothing (cell : Nat × Nat) (member : cell ∈ cells) :
      m.cellPixel t image.size origin cell.1 cell.2 q = none := by
    by_contra shows
    obtain ⟨s, shows⟩ := Option.ne_none_iff_exists'.mp shows
    rcases nothing with nothing | absent
    · rw [pixelFor_of_cellPixel wide high shows] at nothing
      contradiction
    · exact absent ((cell_of_cellPixel shows).2 ▸ member)
  refine (List.foldlRecOn cells _ (motive := fun b => Bitmap.Canvas destination b ∧
    b.colorAt q = out.colorAt q) ⟨canvas, rfl⟩ ?_).2
  rintro b ⟨canvas, same⟩ cell member
  refine ⟨canvas_paintCell image_wf theirs canvas cell.1 cell.2, ?_⟩
  rw [colorAt_paintCell_frame image_wf theirs canvas inside (shows_nothing cell member), same]

/-- The cell that a position falls into decides the colour there, whichever cells are drawn
before and after. -/
theorem colorAt_paintCells_shown (canvas : Bitmap.Canvas destination out)
    (inside : q.inside destination.size = true) (member : t.cellAt origin q ∈ cells)
    (shown : m.pixelFor t image.size origin q = some s) :
    (m.paintCells t image origin cells out).colorAt q =
      (image.colorAt s).map fun color => destination.decode (destination.encode color) := by
  have shows := cellPixel_of_pixelFor wide high shown
  refine (foldl_read _ (·.colorAt q) (Bitmap.Canvas destination) (· = t.cellAt origin q) _ cells
    ?keep ?own ?other out canvas).1 ⟨_, member, rfl⟩
  case keep =>
    intro cell _ b canvas
    exact canvas_paintCell image_wf theirs canvas cell.1 cell.2
  case own =>
    rintro cell _ b canvas rfl
    exact colorAt_paintCell_shown image_wf theirs canvas inside shows
  case other =>
    intro cell _ b canvas elsewhere
    exact colorAt_paintCell_elsewhere image_wf theirs canvas inside elsewhere

/-- The colours do not depend on the order of the cells. -/
theorem colorAt_paintCells_perm (canvas : Bitmap.Canvas destination out)
    {others : List (Nat × Nat)} (order : others ~ cells) (q : Vec2) :
    (m.paintCells t image origin others out).colorAt q =
      (m.paintCells t image origin cells out).colorAt q := by
  by_cases inside : q.inside destination.size = true
  · cases shown : m.pixelFor t image.size origin q with
    | none =>
      rw [colorAt_paintCells_frame image_wf theirs wide high canvas inside (.inl shown),
        colorAt_paintCells_frame image_wf theirs wide high canvas inside (.inl shown)]
    | some s =>
      by_cases member : t.cellAt origin q ∈ cells
      · rw [colorAt_paintCells_shown image_wf theirs wide high canvas inside member shown,
          colorAt_paintCells_shown image_wf theirs wide high canvas inside
            (order.mem_iff.mpr member) shown]
      · rw [colorAt_paintCells_frame image_wf theirs wide high canvas inside (.inr member),
          colorAt_paintCells_frame image_wf theirs wide high canvas inside
            (.inr (mt order.mem_iff.mp member))]
  · have here := canvas_paintCells m t origin image_wf theirs canvas cells
    have there := canvas_paintCells m t origin image_wf theirs canvas others
    rw [Bitmap.colorAt_eq, Bitmap.colorAt_eq, there.shape.size, here.shape.size, if_neg inside,
      if_neg inside]

end canvas

/-- What drawing some cells of a map, none of which is a fault, leaves on a bitmap. -/
structure Drawn (m : TileMap) (t : Tileset) (image destination : Bitmap) (origin : Vec2)
    (cells : List (Nat × Nat)) (out : Bitmap) : Prop where
  shape : out.size = destination.size ∧ out.depth = destination.depth ∧
    out.palette = destination.palette
  /-- Where the map has no pixel, or one of another cell, nothing changes. -/
  frame : ∀ q, q.inside destination.size = true →
    m.pixelFor t image.size origin q = none ∨ t.cellAt origin q ∉ cells →
    out.colorAt q = destination.colorAt q
  /-- Elsewhere its pixel appears, as far as the bitmap renders the colour. -/
  shown : ∀ q, q.inside destination.size = true → t.cellAt origin q ∈ cells →
    ∀ s, m.pixelFor t image.size origin q = some s →
    ∃ color rendered, image.colorAt s = some color ∧ destination.Renders color rendered ∧
      out.colorAt q = some rendered
  /-- Only the cell that a position falls into may change the colour there, on whatever
  bitmap like this one it is drawn. -/
  alone : ∀ q, q.inside destination.size = true → ∀ x y, (x, y) ≠ t.cellAt origin q →
    ∀ b after, Bitmap.Canvas destination b → m.drawCell t image origin x y b = .ok after →
      after.colorAt q = b.colorAt q
  /-- The order of the cells does not matter. -/
  any_order : ∀ others, others ~ cells →
    ∃ b, m.drawCells t image origin others destination = (b, .ok ()) ∧
      ∀ q, b.colorAt q = out.colorAt q

/-- Painting cells that are no faults draws them. -/
theorem drawn_paintCells (wide : 0 < t.tileSize.x.toNat) (high : 0 < t.tileSize.y.toNat)
    (wf : destination.WellFormed) (image_wf : image.WellFormed)
    (own : destination.depth.isIndexed → destination.IndexesInPalette)
    (theirs : destination.depth.isIndexed → image.depth.isIndexed → image.IndexesInPalette)
    (clear : m.Clear t image.size origin cells) :
    Drawn m t image destination origin cells (m.paintCells t image origin cells destination) := by
  have canvas := Bitmap.canvas_self wf own
  have finished := canvas_paintCells m t origin image_wf theirs canvas cells
  refine ⟨⟨finished.shape.size, finished.shape.depth, finished.shape.palette⟩,
    ?frame, ?shown, ?alone, ?any_order⟩
  case frame =>
    intro q inside nothing
    exact colorAt_paintCells_frame image_wf theirs wide high canvas inside nothing
  case shown =>
    intro q inside member s shown
    obtain ⟨hx, hy⟩ := Vec2.inside_iff.mp inside
    have source : image.colorAt s = some (image.shownAt s.x.toNat s.y.toNat) := by
      rw [Bitmap.colorAt_eq, if_pos (inside_of_pixelFor shown)]
    refine ⟨_, _, source, Bitmap.renders_decode_encode
      (fun indexed => (own indexed).nonempty indexed hx hy) _, ?_⟩
    rw [colorAt_paintCells_shown image_wf theirs wide high canvas inside member shown, source,
      Option.map_some]
  case alone =>
    intro q inside x y elsewhere b after canvas draws
    rw [drawCell_eq] at draws
    split at draws
    · contradiction
    · rw [← Except.ok.inj draws]
      exact colorAt_paintCell_elsewhere image_wf theirs canvas inside elsewhere
  case any_order =>
    intro others order
    refine ⟨_, drawCells_of_clear (fun cell member => clear cell (order.mem_iff.mp member)) _, ?_⟩
    exact colorAt_paintCells_perm image_wf theirs wide high canvas order

variable {c : Cache}

/-- Drawing with an image that can be had is drawing the cells row by row. -/
theorem drawMap_eq (tiles : m.tileset = some t) (had : (c.image? t.image).2 = .ok (some image))
    (destination : Bitmap) (origin : Vec2) :
    (c.drawMap m destination origin).2 =
      ((m.drawCells t image origin m.grid destination).1,
        (m.drawCells t image origin m.grid destination).2.mapError .ofPlace) := by
  simp only [Cache.drawMap, tiles, drawWith]
  generalize c.image? t.image = got at had ⊢
  obtain ⟨d, image⟩ := got
  cases had
  rfl

/-- Drawing a map with a tile set whose image can be had completes if no cell is a fault. It shows
at every position what the one cell has there that the position falls into, and nothing else has
changed. Otherwise the first cell that is a fault ends it in a panic, and what is left is a drawing
of the cells before. -/
theorem drawn_drawMap (tiles : m.tileset = some t) (had : (c.image? t.image).2 = .ok (some image))
    (wide : 0 < t.tileSize.x.toNat) (high : 0 < t.tileSize.y.toNat) (wf : destination.WellFormed)
    (image_wf : image.WellFormed) (own : destination.depth.isIndexed → destination.IndexesInPalette)
    (theirs : destination.depth.isIndexed → image.depth.isIndexed → image.IndexesInPalette)
    (origin : Vec2) :
    (m.Clear t image.size origin m.grid →
      ∃ out, (c.drawMap m destination origin).2 = (out, .ok ()) ∧
        Drawn m t image destination origin m.grid out) ∧
    (¬m.Clear t image.size origin m.grid →
      ∃ before cell after fault out, m.grid = before ++ cell :: after ∧
        m.Clear t image.size origin before ∧
        m.cellFault? t image.size origin cell.1 cell.2 = some fault ∧
        (c.drawMap m destination origin).2 = (out, .error (.panic fault.message)) ∧
        Drawn m t image destination origin before out) := by
  rw [drawMap_eq tiles had]
  constructor
  · intro clear
    rw [drawCells_of_clear clear]
    exact ⟨_, rfl, drawn_paintCells wide high wf image_wf own theirs clear⟩
  · intro faulty
    obtain ⟨before, ⟨x, y⟩, after, fault, parts, clear, stops⟩ := exists_first_fault faulty
    rw [parts, drawCells_of_fault clear stops]
    exact ⟨before, (x, y), after, fault, _, rfl, clear, stops, rfl,
      drawn_paintCells wide high wf image_wf own theirs clear⟩

/-- A map whose last cell overhangs the bitmap, beside two cells that stay empty: its tiles
are on the blue of an indexed bitmap in the nearest colours that this one has. -/
theorem drawn_drawMap_overhanging :
    let palette : Palette :=
      ⟨Palette.writeFrom Palette.empty.cells 0 [⟨0, 0, 90⟩, ⟨255, 0, 0⟩, ⟨0, 255, 0⟩], 3, by decide⟩
    let destination := Bitmap.blank ⟨4, 4⟩ .indexed8 palette
    let image := ((Bitmap.blank ⟨7, 4⟩ .trueColor32 Palette.empty).setColor ⟨1, 1⟩
      ⟨250, 10, 5⟩).setColor ⟨4, 1⟩ ⟨9, 240, 12⟩
    let made := (Cache.new (.table []) none).make "tiles" (.bitmap image)
    let t : Tileset := ⟨made.2, ⟨2, 2⟩, 2, 3, 1, 1, none⟩
    let m : TileMap := ⟨⟨2, 2⟩, #[4, 2, 0, 3], some t⟩
    (made.1.image? t.image).2 = .ok (some image) ∧ destination.WellFormed ∧ image.WellFormed ∧
      destination.IndexesInPalette ∧ m.Clear t image.size ⟨1, 1⟩ m.grid ∧
      ∃ out, (made.1.drawMap m destination ⟨1, 1⟩).2 = (out, .ok ()) ∧ out.depth = .indexed8 ∧
        out.colorAt ⟨1, 1⟩ = some ⟨0, 255, 0⟩ ∧ out.colorAt ⟨3, 3⟩ = some ⟨255, 0, 0⟩ ∧
        out.colorAt ⟨3, 1⟩ = some ⟨0, 0, 90⟩ := by
  intro palette destination image made t m
  have had : (made.1.image? t.image).2 = .ok (some image) := rfl
  have wf : destination.WellFormed := Bitmap.wellFormed_blank _ (by decide)
  have image_wf : image.WellFormed := ⟨by decide +kernel, by decide⟩
  have own : destination.IndexesInPalette := Bitmap.indexesInPalette_blank (by decide)
  have clear : m.Clear t image.size ⟨1, 1⟩ m.grid := clear_of_steps (by decide) (by decide) m _ _ _
  obtain ⟨out, draws, drawn⟩ := (drawn_drawMap (m := m) rfl had (by decide) (by decide) wf image_wf
    (fun _ => own) (fun _ indexed => absurd indexed (by decide)) ⟨1, 1⟩).1 clear
  refine ⟨had, wf, image_wf, own, clear, out, draws, drawn.shape.2.1, ?_, ?_, ?_⟩
  · obtain ⟨color, rendered, source, ⟨i, nearest, shows⟩, after⟩ :=
      drawn.shown ⟨1, 1⟩ (by decide) (by decide) ⟨4, 1⟩ (by decide +kernel)
    have green : color = ⟨9, 240, 12⟩ := Option.some.inj (source.symm.trans (by decide +kernel))
    have entry : i = 2 := by
      rw [green] at nearest
      exact nearest.unique (j := 2) ⟨by decide, by decide +kernel, by decide +kernel⟩
    rw [after, shows, entry]
    decide +kernel
  · obtain ⟨color, rendered, source, ⟨i, nearest, shows⟩, after⟩ :=
      drawn.shown ⟨3, 3⟩ (by decide) (by decide) ⟨1, 1⟩ (by decide +kernel)
    have red : color = ⟨250, 10, 5⟩ := Option.some.inj (source.symm.trans (by decide +kernel))
    have entry : i = 1 := by
      rw [red] at nearest
      exact nearest.unique (j := 1) ⟨by decide, by decide +kernel, by decide +kernel⟩
    rw [after, shows, entry]
    decide +kernel
  · rw [drawn.frame ⟨3, 1⟩ (by decide) (.inl (by decide +kernel))]
    decide +kernel

/-- The first of two cells is a fault: its tile starts in row 32769 of steps of 131070. The drawing
ends there, and the second cell is missing. -/
theorem not_drawn_drawMap :
    ¬∀ (c : Cache) (m : TileMap) (t : Tileset) (image destination : Bitmap) (origin : Vec2),
      m.tileset = some t → (c.image? t.image).2 = .ok (some image) →
      0 < t.tileSize.x.toNat → 0 < t.tileSize.y.toNat → destination.WellFormed →
      image.WellFormed → (destination.depth.isIndexed → destination.IndexesInPalette) →
      (destination.depth.isIndexed → image.depth.isIndexed → image.IndexesInPalette) →
      Drawn m t image destination origin m.grid (c.drawMap m destination origin).2.1 := by
  intro draws
  let image := (Bitmap.blank ⟨1, 1⟩ .trueColor32 Palette.empty).setColor ⟨0, 0⟩ ⟨200, 100, 0⟩
  let destination := Bitmap.blank ⟨2, 1⟩ .trueColor32 Palette.empty
  let made := (Cache.new (.table []) none).make "tiles" (.bitmap image)
  let t : Tileset := ⟨made.2, ⟨1, 65535⟩, 65535, 1, 0, 65535, none⟩
  let m : TileMap := ⟨⟨2, 1⟩, #[32770, 1], some t⟩
  have wf : destination.WellFormed := Bitmap.wellFormed_blank _ (by decide)
  have image_wf : image.WellFormed := ⟨by decide +kernel, by decide⟩
  have drawn := draws made.1 m t image destination .zero rfl rfl (by decide) (by decide) wf image_wf
    (fun indexed => absurd indexed (by decide)) (fun indexed => absurd indexed (by decide))
  obtain ⟨color, rendered, source, shows, after⟩ :=
    drawn.shown ⟨1, 0⟩ (by decide) (by decide) ⟨0, 0⟩ (by decide +kernel)
  -- the first cell ends the drawing before anything is drawn
  have cells : m.grid = [] ++ (0, 0) :: [(1, 0)] := by decide
  have clear : m.Clear t image.size .zero [] := List.forall_mem_nil _
  have stops : m.cellFault? t image.size .zero 0 0 = some .product := by decide +kernel
  have brown : color = ⟨200, 100, 0⟩ := Option.some.inj (source.symm.trans (by decide +kernel))
  have same : rendered = color := shows
  rw [drawMap_eq rfl rfl, cells, drawCells_of_fault clear stops, same, brown] at after
  exact absurd after (by decide +kernel)

end TileMap

end TileEngine
