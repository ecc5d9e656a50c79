import TileEngine.Source.Directory

/-!
Where resource bytes come from: a table in memory, in which a name is any
string, or a directory.
-/

namespace TileEngine

/-- A table from names to bytes. -/
abbrev NameTable := List (String × Array UInt8)

namespace NameTable

/-- Adds or replaces an entry. -/
def insert (t : NameTable) (name : String) (content : Array UInt8) : NameTable :=
  (name, content) :: t.filter (·.1 != name)

/-- Removes an entry; the flag says whether it was there. -/
def remove (t : NameTable) (name : String) : NameTable × Bool :=
  (t.filter (·.1 != name), t.any (·.1 == name))

/-- Opens the bytes of a name. -/
def openStream (t : NameTable) (name : String) : Except StreamError ByteStream :=
  match t.lookup name with
  | some content => .ok (.memory (MemoryStream.ofBytes content))
  | none => .error (.notFound name)

end NameTable

/-- A source of named byte streams. -/
inductive Source where
  | table (entries : NameTable)
  | directory (d : Directory)
  deriving Repr

namespace Source

instance : Inhabited Source := ⟨.table []⟩

/-- Opens the stream of a name. -/
def openStream : Source → String → Except StreamError ByteStream
  | .table entries => entries.openStream
  | .directory d => d.openStream

/-- Adds or replaces the bytes of a name. -/
def insert (s : Source) (name : String) (content : Array UInt8) : Source :=
  match s with
  | .table entries => .table (entries.insert name content)
  | .directory d => .directory (d.write name content)

/-- Removes the bytes of a name; the flag says whether they were there. -/
def remove (s : Source) (name : String) : Source × Bool :=
  match s with
  | .table entries =>
    let (entries, found) := entries.remove name
    (.table entries, found)
  | .directory d =>
    let (d, found) := d.remove name
    (.directory d, found)

/-- The number of bytes stored in all files. -/
def byteCount : Source → Nat
  | .table entries => entries.foldr (fun file total => file.2.size + total) 0
  | .directory d => d.tree.files.foldr (fun file total => file.2.size + total) 0

end Source

end TileEngine
