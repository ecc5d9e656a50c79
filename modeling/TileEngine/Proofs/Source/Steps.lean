import TileEngine.Source.Directory
import Mathlib.Data.String.Basic

/-!
The steps of a name, read off its text. A name stays below the place where it starts exactly when
no slash stands in front and no piece between its slashes is made of two dots; a piece that only
looks like these is a name as any other. Its steps are then its other pieces, and the text of a
path below a root has the steps of the root in front of them.
-/

namespace TileEngine

namespace NamePath

variable {name : String} {text piece a b : List Char}

/-! ## Pieces of a text -/

/-- A piece stands in a text between slashes, of which the ends of the text count as some. -/
def HasPiece (text piece : List Char) : Prop :=
  ∃ before after, text = before ++ piece ++ after ∧
    (before = [] ∨ before.getLast? = some '/') ∧ (after = [] ∨ after.head? = some '/')

theorem hasPiece_self (piece : List Char) : HasPiece piece piece :=
  ⟨[], [], by simp, .inl rfl, .inl rfl⟩

theorem hasPiece_first (piece rest : List Char) : HasPiece (piece ++ '/' :: rest) piece :=
  ⟨[], '/' :: rest, by simp, .inl rfl, .inr rfl⟩

theorem HasPiece.later (has : HasPiece text piece) (first : List Char) :
    HasPiece (first ++ '/' :: text) piece := by
  obtain ⟨before, after, rfl, start, stop⟩ := has
  refine ⟨first ++ '/' :: before, after, by simp, .inr ?_, stop⟩
  rcases start with rfl | slash
  · simp
  · rw [List.getLast?_append, List.getLast?_cons, slash]
    rfl

/-- The pieces that a text is split into are those that stand in it. -/
theorem mem_splitOn_iff (plain : '/' ∉ piece) : piece ∈ text.splitOn '/' ↔ HasPiece text piece := by
  constructor
  · -- the first piece ends at the first slash, and the others are pieces of what follows
    induction length : text.length using Nat.strong_induction_on generalizing text with
    | _ n ih =>
      intro member
      by_cases slash : '/' ∈ text
      · obtain ⟨first, rest, rfl, absent⟩ := List.eq_append_cons_of_mem slash
        rw [List.splitOn_append_cons_self_of_not_mem absent, List.mem_cons] at member
        rcases member with rfl | later
        · exact hasPiece_first piece rest
        · exact (ih rest.length (by simp at length; omega) rfl later).later first
      · rw [List.splitOn_eq_singleton slash, List.mem_singleton] at member
        rw [member]
        exact hasPiece_self text
  · rintro ⟨before, after, rfl, start, stop⟩
    have front : piece ∈ (piece ++ after).splitOn '/' := by
      rcases stop with rfl | slash
      · simp [List.splitOn_eq_singleton plain]
      · obtain ⟨rest, rfl⟩ := List.head?_eq_some_iff.mp slash
        simp [List.splitOn_append_cons_self_of_not_mem plain]
    rw [List.append_assoc]
    rcases start with rfl | slash
    · exact front
    · obtain ⟨first, rfl⟩ := List.getLast?_eq_some_iff.mp slash
      rw [List.append_assoc, List.singleton_append, List.splitOn_append_cons_self]
      exact List.mem_append_right _ front

theorem pieces_eq (name : String) : pieces name = (name.toList.splitOn '/').map String.ofList := by
  rw [pieces, String.splitToList_of_valid, List.splitOn_eq_splitOnP]

theorem mem_pieces_iff {piece : String} (plain : '/' ∉ piece.toList) :
    piece ∈ pieces name ↔ HasPiece name.toList piece.toList := by
  rw [pieces_eq, ← mem_splitOn_iff plain, List.mem_map]
  constructor
  · rintro ⟨chars, member, rfl⟩
    rwa [String.toList_ofList]
  · intro member
    exact ⟨_, member, String.ofList_toList⟩

theorem pieces_append (front back : String) :
    pieces (front ++ "/" ++ back) = pieces front ++ pieces back := by
  have text : (front ++ "/" ++ back).toList = front.toList ++ '/' :: back.toList := by simp
  rw [pieces_eq, text, List.splitOn_append_cons_self, List.map_append, ← pieces_eq, ← pieces_eq]

theorem pieces_empty : pieces "" = [""] := by simp [pieces_eq]

theorem pieces_closed (front : String) : pieces (front ++ "/") = pieces front ++ [""] := by
  simpa [pieces_empty] using pieces_append front ""

/-! ## Names that stay below -/

/-- A name without a slash in front and without a piece of two dots. -/
structure Inner (name : String) : Prop where
  relative : name.toList.head? ≠ some '/'
  forward : ¬HasPiece name.toList ['.', '.']

/-- The pieces of a name that are names. -/
def names (name : String) : List String :=
  (pieces name).filter fun piece => piece ≠ "" ∧ piece ≠ "."

theorem startsWith_slash_iff : name.startsWith "/" = true ↔ name.toList.head? = some '/' := by
  rw [String.startsWith_string_iff, List.head?_eq_some_iff]
  constructor
  · rintro ⟨rest, equal⟩
    exact ⟨rest, equal.symm⟩
  · rintro ⟨rest, equal⟩
    exact ⟨rest, equal.symm⟩

/-- Steps of pieces are normal when none of these is made of two dots. -/
theorem filterMap_ofPiece {pieces : List String} (forward : ".." ∉ pieces) :
    pieces.filterMap PathStep.ofPiece =
      (pieces.filter fun piece => piece ≠ "" ∧ piece ≠ ".").map .normal := by
  induction pieces with
  | nil => rfl
  | cons piece rest ih =>
    rw [List.mem_cons, not_or] at forward
    rw [List.filterMap_cons, ih forward.2]
    by_cases nothing : piece = "" ∨ piece = "."
    · rcases nothing with rfl | rfl <;> rfl
    · rw [not_or] at nothing
      simp [PathStep.ofPiece, nothing, Ne.symm forward.1]

theorem parent_mem_filterMap_iff {pieces : List String} :
    .parent ∈ pieces.filterMap PathStep.ofPiece ↔ ".." ∈ pieces := by
  rw [List.mem_filterMap]
  constructor
  · rintro ⟨piece, member, step⟩
    unfold PathStep.ofPiece at step
    split at step
    · contradiction
    · split at step
      · rename_i dots
        exact dots ▸ member
      · cases step
  · intro member
    exact ⟨"..", member, rfl⟩

theorem steps_ofName (relative : name.toList.head? ≠ some '/') :
    (ofName name).steps = (pieces name).filterMap PathStep.ofPiece := by
  have start : ¬name.startsWith "/" = true := mt startsWith_slash_iff.mp relative
  simp [ofName, start]

/-- The steps of a name that stays below are its names. -/
theorem Inner.steps (inner : Inner name) : (ofName name).steps = (names name).map .normal := by
  rw [steps_ofName inner.relative, names, filterMap_ofPiece]
  intro member
  exact inner.forward ((mem_pieces_iff (by decide)).mp member)

theorem staysBelow_iff : (ofName name).staysBelow = true ↔ Inner name := by
  rw [staysBelow, List.all_eq_true]
  constructor
  · intro normal
    have relative : name.toList.head? ≠ some '/' := by
      intro slash
      rw [← startsWith_slash_iff] at slash
      have top := normal .top (by simp [ofName, slash])
      contradiction
    refine ⟨relative, fun dots => ?_⟩
    rw [steps_ofName relative] at normal
    have member : ".." ∈ pieces name := (mem_pieces_iff (by decide)).mpr dots
    have parent := normal .parent (parent_mem_filterMap_iff.mpr member)
    contradiction
  · intro inner step member
    rw [inner.steps, List.mem_map] at member
    obtain ⟨piece, -, rfl⟩ := member
    rfl

/-! ## Texts of paths -/

/-- What stands behind a slash is stepped through from where the text in front leads. -/
theorem steps_behind (front back : String) :
    (ofName (front ++ "/" ++ back)).steps =
      (ofName (front ++ "/")).steps ++ (pieces back).filterMap PathStep.ofPiece := by
  have start : (front ++ "/" ++ back).startsWith "/" = (front ++ "/").startsWith "/" := by
    rw [Bool.eq_iff_iff, startsWith_slash_iff, startsWith_slash_iff]
    cases chars : front.toList <;> simp [chars]
  simp [ofName, start, pieces_append, pieces_closed, PathStep.ofPiece]

/-- A slash at the end of a text is no step. -/
theorem steps_closed {front : String} (some : front ≠ "") :
    (ofName (front ++ "/")).steps = (ofName front).steps := by
  have start : (front ++ "/").startsWith "/" = front.startsWith "/" := by
    rw [Bool.eq_iff_iff, startsWith_slash_iff, startsWith_slash_iff]
    cases chars : front.toList with
    | nil => exact absurd (String.toList_eq_nil_iff.mp chars) some
    | cons first rest => simp [chars]
  simp [ofName, start, pieces_closed, PathStep.ofPiece]

theorem exists_of_endsWith_slash {text : String} (closed : text.endsWith "/" = true) :
    ∃ front, text = front ++ "/" := by
  rw [String.endsWith_eq_endsWith_toSlice, String.Slice.endsWith_string_iff] at closed
  obtain ⟨front, equal⟩ := closed
  refine ⟨String.ofList front, String.toList_inj.mp ?_⟩
  rw [String.toList_append, String.toList_ofList]
  simpa using equal.symm

end NamePath

open NamePath in
/-- The path that is opened for a name below a root is the root, then the name. -/
theorem Directory.steps_pathText (d : Directory) {name : String}
    (relative : name.toList.head? ≠ some '/') :
    (ofName (d.pathText name)).steps = (ofName d.root).steps ++ (ofName name).steps := by
  rw [pathText]
  by_cases empty : d.root = ""
  · have start : (ofName "").steps = [] := by
      rw [steps_ofName (by simp), pieces_empty]
      rfl
    simp [empty, start]
  · rw [steps_ofName relative]
    split
    · rename_i closed
      obtain ⟨front, equal⟩ := exists_of_endsWith_slash (by simpa [empty] using closed)
      rw [equal, steps_behind]
    · rw [steps_behind, steps_closed empty]

end TileEngine
