import TileEngine.Color

/-!
Palettes of at most 256 colours with nearest-colour search. A palette keeps the
colours of its dropped entries, so growing it again brings them back; equality
and searches see the active entries only.
-/

namespace TileEngine

/-- Why a palette operation is refused. -/
inductive PaletteError where
  | tooManyColors (requested capacity : Nat)
  | indexOutOfRange (index len : Nat)
  deriving DecidableEq, Repr

/-- The wording of a palette error. -/
def PaletteError.message : PaletteError → String
  | .tooManyColors requested capacity =>
    s!"a palette holds at most {capacity} colors, {requested} were requested"
  | .indexOutOfRange index len =>
    s!"palette index {index} is outside the {len} active colors"

/-- The number of colours a palette can hold. -/
def Palette.capacity : Nat := 256

/-- A colour table: `capacity` cells of which the first `len` are active. -/
structure Palette where
  cells : Vector Color Palette.capacity
  len : Nat
  len_le : len ≤ Palette.capacity
  deriving DecidableEq, Repr

namespace Palette

/-- The palette without an active colour. -/
def empty : Palette := ⟨Vector.replicate capacity .black, 0, Nat.zero_le _⟩

instance : Inhabited Palette := ⟨empty⟩

/-- No colour is active. -/
def isEmpty (p : Palette) : Bool := p.len == 0

/-- The active colours in index order. -/
def active (p : Palette) : List Color := p.cells.toList.take p.len

/-- Two palettes agree when their active colours do. -/
def same (p q : Palette) : Bool := p.len == q.len && p.active == q.active

/-- The colour of an active entry. -/
def get? (p : Palette) (index : Nat) : Option Color :=
  if h : index < p.len then some (p.cells.get ⟨index, Nat.lt_of_lt_of_le h p.len_le⟩) else none

/-- The colour a stored index shows: an index past the active entries is black. -/
def shown (p : Palette) (index : Nat) : Color := (p.get? index).getD .black

/-- Changes the number of active entries; an entry that becomes active shows
the colour it last held. -/
def resize (p : Palette) (len : Nat) : Except PaletteError Palette :=
  if h : len ≤ capacity then .ok { p with len := len, len_le := h }
  else .error (.tooManyColors len capacity)

/-- A palette of `len` black entries. -/
def ofLen (len : Nat) : Except PaletteError Palette := empty.resize len

/-- Replaces one active entry. -/
def set (p : Palette) (index : Nat) (color : Color) : Except PaletteError Palette :=
  if h : index < p.len then
    .ok { p with cells := p.cells.set index color (Nat.lt_of_lt_of_le h p.len_le) }
  else .error (.indexOutOfRange index p.len)

/-- Appends a colour and gives its index. -/
def push (p : Palette) (color : Color) : Except PaletteError (Palette × Nat) := do
  let grown ← p.resize (p.len + 1)
  let written ← grown.set p.len color
  return (written, p.len)

/-- Writes colours from an index on, as far as the cells reach. -/
def writeFrom (cells : Vector Color capacity) : Nat → List Color → Vector Color capacity
  | _, [] => cells
  | index, color :: rest => writeFrom (cells.setIfInBounds index color) (index + 1) rest

/-- The palette of the given colours in their order. -/
def ofColors (colors : List Color) : Except PaletteError Palette := do
  let sized ← ofLen colors.length
  return { sized with cells := writeFrom sized.cells 0 colors }

/-- Black, then white: how a one-bit bitmap without a palette is read. -/
def monochrome : Palette :=
  ⟨writeFrom empty.cells 0 [.black, .white], 2, by decide⟩

/-- Scans colours for the nearest one to a target. An equal colour ends the
scan; otherwise only a strictly smaller distance replaces the best index. -/
def scanNearest (target : Color) : List Color → (index best least : Nat) → Nat
  | [], _, best, _ => best
  | color :: rest, index, best, least =>
    if color = target then index
    else
      let distance := color.distanceSquared target
      if distance < least then scanNearest target rest (index + 1) index distance
      else scanNearest target rest (index + 1) best least

/-- The position of the nearest active colour, zero when there is none. The
starting bound is the largest 32-bit word, above every distance. -/
def nearest (p : Palette) (target : Color) : Nat :=
  scanNearest target p.active 0 0 0xFFFFFFFF

/-- The position of the nearest active colour as the byte a pixel stores. -/
def nearestIndex (p : Palette) (target : Color) : UInt8 := (p.nearest target).toUInt8

/-- The diagnostic text: the active colours between brackets. -/
def describe (p : Palette) : String :=
  "[" ++ ", ".intercalate (p.active.map Color.describe) ++ "]"

end Palette

end TileEngine
