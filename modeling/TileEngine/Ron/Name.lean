import TileEngine.Ron.Blank
import TileEngine.Text.Identifier

/-!
Names in a RON text. A plain name is an identifier; a raw name follows the mark
`r#` and may also hold full stops and signs.
-/

namespace TileEngine.Ron

/-- A character of a raw name. -/
def continuesRaw (c : Char) : Bool :=
  Text.continuesIdentifier c || c = '.' || c = '+' || c = '-'

/-- The openings of quoted literals that look like names. -/
def literalMarks : List (List Char) :=
  ["b\"", "b'", "br#", "br\"", "r\"", "r#\"", "r##"].map String.toList

/-- A name as it is written. -/
structure Name where
  text : List Char
  raw : Bool
  deriving DecidableEq, Repr

/-- Whether a name is a word that is written plainly. -/
def Name.is (n : Name) (word : String) : Bool := !n.raw && n.text == word.toList

/-- Takes a plain name off the front. -/
def readPlain? : List Char → Option (Name × List Char)
  | c :: cs =>
    if Text.startsIdentifier c then
      let (more, rest) := cs.span Text.continuesIdentifier
      some (⟨c :: more, false⟩, rest)
    else none
  | [] => none

/-- Takes a name off the front. -/
def readName? (cs : List Char) : Option (Name × List Char) :=
  if literalMarks.any (·.isPrefixOf cs) then none
  else
    match cs with
    | 'r' :: '#' :: cs =>
      match cs.span continuesRaw with
      | ([], _) => none
      | (text, rest) => some (⟨text, true⟩, rest)
    | cs => readPlain? cs

/-- Whether a name and a colon come next. -/
def startsField (cs : List Char) : Bool :=
  match readName? cs with
  | some (_, rest) => (expect ':' rest).isSome
  | none => false

end TileEngine.Ron
