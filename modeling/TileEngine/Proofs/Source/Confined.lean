import TileEngine.Proofs.Source.Steps

/-!
A directory gives nothing but what lies below it. A name that could lead out is not found, whatever
files there are. For every other name one path is looked up: the root, then the names of the
name. Its normal form is that of the root with these names behind it, and the stream that is
opened is over what stands there.
-/

namespace TileEngine

/-! ## Places -/

namespace Location

variable (l : Location)

/-- The place that steps lead to when nothing but their text counts: a name goes down, and two
dots take the last name back. -/
def walk (steps : List PathStep) : Location := steps.foldl step l

/-- The place that names lead to from here. -/
def below (names : List String) : Location := { l with path := l.path ++ names }

theorem walk_append (front back : List PathStep) :
    l.walk (front ++ back) = (l.walk front).walk back := List.foldl_append

theorem walk_normal (names : List String) : l.walk (names.map .normal) = l.below names := by
  induction names generalizing l with
  | nil => simp [walk, below]
  | cons name rest ih =>
    rw [List.map_cons, walk, List.foldl_cons]
    exact (ih (l.step (.normal name))).trans (by simp [step, below])

end Location

/-- The normal form of the text of a path: where it leads from a working directory, or from the
top, by its text alone. -/
def NamePath.normalForm (text : String) : Location := Location.root.walk (ofName text).steps

/-! ## Trees -/

namespace FileTree

variable {t : FileTree} {l l' : Location} {node : FileNode}

/-- A path that is followed to its end leads to its place, and the node of this place is found. -/
theorem follow_eq_ok {steps : List PathStep} (found : t.follow l steps = .ok (l', node)) :
    l' = l.walk steps ∧ t.node? l' = some node := by
  induction steps generalizing l with
  | nil =>
    rw [follow] at found
    split at found
    · rename_i here
      cases found
      exact ⟨rfl, here⟩
    · contradiction
  | cons step rest ih =>
    rw [follow] at found
    split at found
    · contradiction
    · contradiction
    · split at found
      · contradiction
      · exact ih found

theorem lookup_eq_ok {path : NamePath} (found : t.lookup path = .ok (l, node)) :
    l = Location.root.walk path.steps ∧ t.node? l = some node := by
  rw [lookup] at found
  split at found
  · rename_i followed
    split at found
    · contradiction
    · cases found
      exact follow_eq_ok followed
  · exact follow_eq_ok found

end FileTree

/-- The stream that is opened over a node. -/
def FileNode.stream : FileNode → ByteStream
  | file content => .file (FileStream.ofBytes content)
  | directory => .file FileStream.ofDirectory

/-! ## Directories -/

namespace Directory

open NamePath FileTree

variable {d : Directory} {name : String}

/-- The same directory in a tree of other files. -/
def withTree (d : Directory) (tree : FileTree) : Directory := { d with tree := tree }

/-- Why a path is refused by its text, whatever files there are. -/
def refusal? (text : String) : Option IoFailure :=
  if text.toList.contains '\x00' then some ⟨"file name contained an unexpected NUL byte"⟩
  else if text.utf8ByteSize ≥ pathLimit then some ⟨"File name too long (os error 36)"⟩
  else none

/-- What becomes of a name whose path has this text, given what a look at the path finds. -/
def answer (name text : String) (found : Except LookupError (Location × FileNode)) :
    Except StreamError ByteStream :=
  match refusal? text, found with
  | some cause, _ => .error (.io cause)
  | none, .ok (_, node) => .ok node.stream
  | none, .error .missing => .error (.notFound name)
  | none, .error (.failed cause) => .error (.io cause)

theorem openStream_of_not_inner (outside : ¬Inner name) :
    d.openStream name = .error (.notFound name) := by
  rw [openStream, if_pos]
  simpa using mt staysBelow_iff.mp outside

/-- A name that stays below is looked up at one path of the tree. -/
theorem openStream_of_inner (inner : Inner name) :
    d.openStream name = answer name (d.pathText name) (d.tree.lookup (d.place (ofName name))) := by
  rw [openStream, if_neg (by simpa using staysBelow_iff.mpr inner)]
  unfold answer refusal?
  generalize d.tree.lookup (d.place (ofName name)) = found
  split
  · rfl
  · split
    · rfl
    · rcases found with (_ | _) | ⟨_, _ | _⟩ <;> rfl

theorem steps_place (inner : Inner name) :
    (d.place (ofName name)).steps = d.base ++ (names name).map .normal := by
  rw [place, inner.steps]

theorem normalForm_pathText (d : Directory) (inner : Inner name) :
    normalForm (d.pathText name) = (normalForm d.root).below (names name) := by
  rw [normalForm, d.steps_pathText inner.relative, inner.steps, Location.walk_append,
    Location.walk_normal]
  rfl

theorem answer_eq_ok {text : String} {found : Except LookupError (Location × FileNode)}
    {s : ByteStream} (opened : answer name text found = .ok s) :
    ∃ l node, found = .ok (l, node) ∧ s = node.stream := by
  unfold answer at opened
  split at opened
  · contradiction
  · exact ⟨_, _, rfl, (Except.ok.inj opened).symm⟩
  · contradiction
  · contradiction

/-- A stream that is opened is over what stands below the directory, where the names of the name
lead. -/
theorem openStream_eq_ok {s : ByteStream} (opened : d.openStream name = .ok s) :
    ∃ node, d.tree.node? ((Location.root.walk d.base).below (names name)) = some node ∧
      s = node.stream := by
  have inner : Inner name := by
    by_contra outside
    rw [openStream_of_not_inner outside] at opened
    contradiction
  rw [openStream_of_inner inner] at opened
  obtain ⟨l, node, found, rfl⟩ := answer_eq_ok opened
  obtain ⟨rfl, stands⟩ := lookup_eq_ok found
  rw [steps_place inner, Location.walk_append, Location.walk_normal] at stands
  exact ⟨node, stands, rfl⟩

/-- Directories are confined. A name with a slash in front or with a piece of two dots is not found,
and no file has a say in that. For any other name the path is the root followed by the names of
the name, both as a text and as the one path that is looked up, and its normal form goes down from
that of the root by these names; a stream that is opened is over what stands there. -/
theorem openStream_confined (d : Directory) (name : String) :
    (¬Inner name → ∀ tree, (d.withTree tree).openStream name = .error (.notFound name)) ∧
    (Inner name →
      (ofName (d.pathText name)).steps = (ofName d.root).steps ++ (names name).map .normal ∧
      normalForm (d.pathText name) = (normalForm d.root).below (names name) ∧
      (d.place (ofName name)).steps = d.base ++ (names name).map .normal ∧
      (∀ tree, (d.withTree tree).openStream name =
        answer name (d.pathText name) (tree.lookup (d.place (ofName name)))) ∧
      ∀ tree s, (d.withTree tree).openStream name = .ok s →
        ∃ node, tree.node? ((Location.root.walk d.base).below (names name)) = some node ∧
          s = node.stream) := by
  refine ⟨fun outside tree => openStream_of_not_inner outside, fun inner => ⟨?_, ?_, ?_, ?_, ?_⟩⟩
  · rw [d.steps_pathText inner.relative, inner.steps]
  · exact normalForm_pathText d inner
  · exact steps_place inner
  · exact fun tree => openStream_of_inner inner
  · exact fun tree s opened => openStream_eq_ok opened

/-- A piece with two dots in front is a name; one of two dots is none, also where the steps in
front of it would be enough. -/
theorem openStream_confined_dots :
    let tree : FileTree := ⟨[(⟨.level 0, ["r", "..x", "a"]⟩, #[7])],
      [⟨.level 0, ["r"]⟩, ⟨.level 0, ["r", "..x"]⟩]⟩
    let d : Directory := ⟨"r/", [.normal "r"], tree⟩
    Inner "..x//./a" ∧ normalForm (d.pathText "..x//./a") = ⟨.level 0, ["r", "..x", "a"]⟩ ∧
      d.openStream "..x//./a" = .ok (.file (FileStream.ofBytes #[7])) ∧
      ¬Inner "..x/../..x/a" ∧
      d.openStream "..x/../..x/a" = .error (.notFound "..x/../..x/a") := by
  intro tree d
  have inner : Inner "..x//./a" := staysBelow_iff.mp (by decide +kernel)
  have outside : ¬Inner "..x/../..x/a" := mt staysBelow_iff.mpr (by decide +kernel)
  obtain ⟨-, normal, -, looked, -⟩ := (openStream_confined d "..x//./a").2 inner
  refine ⟨inner, ?_, ?_, outside, (openStream_confined d _).1 outside tree⟩
  · rw [normal]
    decide +kernel
  · refine (looked tree).trans ?_
    decide +kernel

end Directory

end TileEngine
