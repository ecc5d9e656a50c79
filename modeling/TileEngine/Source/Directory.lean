import TileEngine.Source.Tree

/-!
Resources in a directory. Names are resolved against a directory of a tree, and no
name leads out of it.
-/

namespace TileEngine

/-- A directory that names are resolved against: the text of its path, and the
steps that lead to it from the root of a tree. -/
structure Directory where
  root : String
  base : List PathStep
  tree : FileTree
  deriving DecidableEq, Repr, Inhabited

namespace Directory

/-- The root of an empty tree. -/
def empty (root : String) : Directory := ⟨root, [], FileTree.empty⟩

/-- The text of the path that is opened for a name: the root, then the name. No slash is put
after an empty root or after one that ends in a slash. -/
def pathText (d : Directory) (name : String) : String :=
  if d.root = "" || d.root.endsWith "/" then d.root ++ name else d.root ++ "/" ++ name

/-- The length from which the text of a path is refused, in bytes. -/
def pathLimit : Nat := 4096

/-- A path from the directory as a path from the root of the tree. -/
def place (d : Directory) (path : NamePath) : NamePath :=
  { path with steps := d.base ++ path.steps }

/-- The directory that a name leads to. It need not lie below this one, nor be
there at all. -/
def enter (d : Directory) (name : String) : Directory :=
  { d with
    root := if name.startsWith "/" then name else d.pathText name
    base := (d.place (.ofName name)).steps }

/-- Opens the file of a name. A name that would leave the directory is not found,
and the file system is not asked for it. -/
def openStream (d : Directory) (name : String) : Except StreamError ByteStream :=
  let path := NamePath.ofName name
  if !path.staysBelow then .error (.notFound name)
  else if (d.pathText name).toList.contains '\x00' then
    .error (.io ⟨"file name contained an unexpected NUL byte"⟩)
  else if (d.pathText name).utf8ByteSize ≥ pathLimit then
    .error (.io ⟨"File name too long (os error 36)"⟩)
  else
    match d.tree.lookup (d.place path) with
    | .ok (_, .file content) => .ok (.file (FileStream.ofBytes content))
    | .ok (_, .directory) => .ok (.file FileStream.ofDirectory)
    | .error .missing => .error (.notFound name)
    | .error (.failed cause) => .error (.io cause)

/-- Writes the file of a path from the root of the tree. -/
def write (d : Directory) (name : String) (content : Array UInt8) : Directory :=
  { d with tree := d.tree.write (.ofName name) content }

/-- Removes the file of a path from the root of the tree; the flag says whether it
was there. -/
def remove (d : Directory) (name : String) : Directory × Bool :=
  let (tree, found) := d.tree.remove (.ofName name)
  ({ d with tree := tree }, found)

end Directory

end TileEngine
