import TileEngine.Source.Path
import TileEngine.ByteStream.Basic

/-!
A tree of files. A path is followed step by step, each from a directory, and the
ways in which this fails are told apart as a file system tells them apart. Paths may
lead out of the tree, to places of which no more is known than what was written
there.
-/

namespace TileEngine

/-- What a path leads to. -/
inductive FileNode where
  | file (content : Array UInt8)
  | directory
  deriving DecidableEq, Repr

/-- Where the names of a place start: at some level above the root of the tree, which
itself is level zero, or at the top of the file system. -/
inductive Origin where
  | level (above : Nat)
  | top
  deriving DecidableEq, Repr

/-- A place that a path leads to: the names from an origin on. -/
structure Location where
  origin : Origin
  path : List String
  deriving DecidableEq, Repr

/-- The next origin on the way up. Nothing lies above the top. -/
def Origin.parent : Origin → Origin
  | level above => level (above + 1)
  | top => top

namespace Location

/-- The root of the tree. -/
def root : Location := ⟨.level 0, []⟩

/-- The place that one step leads to. -/
def step (l : Location) : PathStep → Location
  | .normal name => { l with path := l.path ++ [name] }
  | .parent => if l.path = [] then ⟨l.origin.parent, []⟩ else { l with path := l.path.dropLast }
  | .top => ⟨.top, []⟩

end Location

/-- The files and directories that are known, by their places. -/
structure FileTree where
  files : List (Location × Array UInt8)
  directories : List Location
  deriving DecidableEq, Repr, Inhabited

namespace FileTree

/-- A root with nothing below it. -/
def empty : FileTree := ⟨[], []⟩

/-- What stands at a place. Every origin is a directory. -/
def node? (t : FileTree) (l : Location) : Option FileNode :=
  if l.path = [] then some .directory
  else
    match t.files.lookup l with
    | some content => some (.file content)
    | none => if t.directories.contains l then some .directory else none

/-- Why a path leads nowhere. -/
inductive LookupError where
  | missing
  | failed (cause : IoFailure)
  deriving DecidableEq, Repr

/-- The failure of a step from a file. -/
def notDirectory : LookupError := .failed ⟨"Not a directory (os error 20)"⟩

/-- The failure of a step with a name that is too long. -/
def nameTooLong : LookupError := .failed ⟨"File name too long (os error 36)"⟩

/-- The longest name of one step, in bytes. -/
def nameLimit : Nat := 255

/-- Whether a step has a name that is too long. -/
def isTooLong : PathStep → Bool
  | .normal name => name.utf8ByteSize > nameLimit
  | _ => false

/-- Follows the steps of a path from a place that was reached already. -/
def follow (t : FileTree) (l : Location) :
    List PathStep → Except LookupError (Location × FileNode)
  | [] =>
    match t.node? l with
    | some node => .ok (l, node)
    | none => .error .missing
  | step :: rest =>
    match t.node? l with
    | none => .error .missing
    | some (.file _) => .error notDirectory
    | some .directory => if isTooLong step then .error nameTooLong else t.follow (l.step step) rest

/-- Looks a path up; a file is refused where the text asks for a directory. -/
def lookup (t : FileTree) (path : NamePath) : Except LookupError (Location × FileNode) :=
  match t.follow .root path.steps with
  | .ok (l, .file content) =>
    if path.directory then .error notDirectory else .ok (l, .file content)
  | r => r

/-- Follows steps and makes the directories on the way that are missing. A file on
the way ends it. -/
def makeDirectories (t : FileTree) (l : Location) : List PathStep → FileTree × Option Location
  | [] => (t, some l)
  | step :: rest =>
    let l := l.step step
    match t.node? l with
    | none => makeDirectories { t with directories := l :: t.directories } l rest
    | some .directory => t.makeDirectories l rest
    | some (.file _) => (t, none)

/-- Puts a file at a place where no directory stands. -/
def put (t : FileTree) (l : Location) (content : Array UInt8) : FileTree :=
  if t.node? l = some .directory then t
  else { t with files := (l, content) :: t.files.filter (·.1 != l) }

/-- Writes a file and makes the directories on the way to it. Nothing is written to a
path that only a directory has. -/
def write (t : FileTree) (path : NamePath) (content : Array UInt8) : FileTree :=
  match t.makeDirectories .root path.steps.dropLast, path.steps.getLast? with
  | (t, some l), some (.normal name) =>
    if path.directory then t else t.put (l.step (.normal name)) content
  | (t, _), _ => t

/-- Removes a file; the flag says whether it was there. -/
def remove (t : FileTree) (path : NamePath) : FileTree × Bool :=
  match t.lookup path with
  | .ok (l, .file _) => ({ t with files := t.files.filter (·.1 != l) }, true)
  | _ => (t, false)

end FileTree

end TileEngine
