import TileEngine.Ron.Literal
import TileEngine.Ron.Name

/-!
The dialect of a RON text. Attributes in front of the value, such as
`#![enable(implicit_some)]`, switch extensions of the notation on. Others, such as
`#![type = "Scene"]`, tell a reader what the text describes and switch nothing on.
-/

namespace TileEngine.Ron

/-- An extension of the notation. -/
inductive Extension where
  | unwrapNewtypes
  | implicitSome
  | unwrapVariantNewtypes
  | explicitStructNames
  deriving DecidableEq, Repr

/-- The extension of a name. -/
def Extension.ofName? (name : List Char) : Option Extension :=
  match String.ofList name with
  | "unwrap_newtypes" => some .unwrapNewtypes
  | "implicit_some" => some .implicitSome
  | "unwrap_variant_newtypes" => some .unwrapVariantNewtypes
  | "explicit_struct_names" => some .explicitStructNames
  | _ => none

/-- The extensions that are switched on. -/
abbrev Dialect := List Extension

/-- The names of an attribute up to its closing parenthesis; the first argument
bounds their number. -/
def readExtensions : Nat → List Char → Option (Dialect × List Char)
  | 0, _ => none
  | steps + 1, cs => do
    let (name, rest) ← readName? cs
    let extension ← Extension.ofName? name.text
    match ← skipComma rest with
    | (false, rest) => return ([extension], ← expect ')' rest)
    | (true, rest) =>
      if (rest.head?.map Text.continuesIdentifier).getD false then
        let (more, rest) ← readExtensions steps rest
        return (extension :: more, rest)
      else return ([extension], ← expect ')' rest)

/-- Drops blanks, then a word, letter by letter. -/
def expectWord (word : String) (cs : List Char) : Option (List Char) := do
  let cs ← skip cs
  if word.toList.isPrefixOf cs then some (cs.drop word.length) else none

/-- The words of the attributes that hold a description. -/
def descriptionWords : List String := ["type", "schema"]

/-- Drops a description after its word: an equals sign and a string. -/
def dropDescription (cs : List Char) : Option (List Char) := do
  let cs ← skip (← expect '=' cs)
  (readString cs).map Prod.snd

/-- The extensions of an attribute after its word: names between parentheses. -/
def readEnabled (cs : List Char) : Option (Dialect × List Char) := do
  let cs ← skip (← expect '(' cs)
  readExtensions cs.length cs

/-- One attribute after its number sign. -/
def readAttribute (cs : List Char) : Option (Dialect × List Char) := do
  let cs ← expect '!' cs
  let cs ← expect '[' cs
  match descriptionWords.findSome? (expectWord · cs) with
  | some rest => return ([], ← expect ']' (← dropDescription rest))
  | none =>
    let (dialect, rest) ← readEnabled (← expectWord "enable" cs)
    return (dialect, ← expect ']' rest)

/-- All attributes in front of a value; the first argument bounds their number. -/
def readAttributes : Nat → List Char → Option (Dialect × List Char)
  | 0, _ => none
  | steps + 1, cs => do
    match ← skip cs with
    | '#' :: rest =>
      let (first, rest) ← readAttribute rest
      let (more, rest) ← readAttributes steps rest
      return (first ++ more, rest)
    | rest => return ([], rest)

/-- The dialect of a text, and the text behind its attributes. -/
def readDialect (cs : List Char) : Option (Dialect × List Char) :=
  readAttributes (cs.length + 1) cs

end TileEngine.Ron
