/-!
Names of resources and directories as paths. A name is split at its slashes; empty
pieces and single dots stand for nothing, two dots lead out of a directory, and a
slash in front leads to the top of the file system.
-/

namespace TileEngine

/-- A step of a path. -/
inductive PathStep where
  | normal (name : String)
  | parent
  | top
  deriving DecidableEq, Repr

namespace PathStep

/-- What one piece between slashes stands for. -/
def ofPiece (piece : String) : Option PathStep :=
  if piece = "" || piece = "." then none
  else if piece = ".." then some .parent
  else some (.normal piece)

/-- A step to something that lies in the directory where it starts. -/
def isNormal : PathStep → Bool
  | normal _ => true
  | _ => false

end PathStep

/-- The steps of a path. The flag says that its text ends in a way that only a
directory has. -/
structure NamePath where
  steps : List PathStep
  directory : Bool
  deriving DecidableEq, Repr

namespace NamePath

/-- The pieces of a name between its slashes. -/
def pieces (name : String) : List String := (name.splitToList (· == '/'))

/-- The path of a name. -/
def ofName (name : String) : NamePath :=
  let pieces := pieces name
  let last := pieces.getLast?.getD ""
  let start := if name.startsWith "/" then [.top] else []
  ⟨start ++ pieces.filterMap PathStep.ofPiece, last = "" || last = "."⟩

/-- Whether the path leads to something below the place where it starts. -/
def staysBelow (p : NamePath) : Bool := p.steps.all PathStep.isNormal

end NamePath

end TileEngine
