import TileEngine.Ron.Dialect
import TileEngine.Ron.Range
import TileEngine.Ron.Shape

/-!
Values of a RON text that nobody asked for. Of such a value only the end is
found, and that it is well formed: a word, a number or a range of numbers, a
quoted literal, an option, a structure with or without a name, a tuple, a list or
a map.
-/

namespace TileEngine.Ron

/-- How deep values may lie in each other: a bracket takes one level, and every
part of it another. -/
def nestingLimit : Nat := 128

/-- The words that are values by themselves. -/
def wordValues : List String := ["true", "false", "None"]

/-- Drops a quoted literal, a number or a range, by its first characters. -/
def dropLiteral : List Char → Option (List Char)
  | '"' :: cs => (readString ('"' :: cs)).map Prod.snd
  | 'r' :: cs => (readString ('r' :: cs)).map Prod.snd
  | '\'' :: cs => dropChar ('\'' :: cs)
  | 'b' :: '\'' :: cs => dropRange ('b' :: '\'' :: cs)
  | 'b' :: cs => dropBytes ('b' :: cs)
  | cs => dropRange cs

mutual

/-- Drops a value. The first argument bounds the number of steps, the second the
levels that are left. -/
def dropValue (dialect : Dialect) : Nat → Nat → List Char → Option (List Char)
  | 0, _, _ => none
  | steps + 1, room, cs =>
    match readName? cs with
    | some (name, rest) =>
      if wordValues.any name.is then some rest
      else if wordNumbers.any name.is then dropRangeTail rest
      else if name.is "Some" then dropSome dialect steps room rest
      else do
        match ← skip rest with
        | '(' :: rest => dropGroup dialect steps room rest
        | rest => some rest
    | none =>
      match cs with
      | '(' :: ')' :: rest => some rest
      | '(' :: rest => dropGroup dialect steps room rest
      | '[' :: rest => dropInside dialect steps room ']' rest
      | '\x7b' :: rest =>
        match room with
        | 0 => none
        | room + 1 => dropEntries dialect steps room rest
      | cs => dropLiteral cs

/-- Drops the value of an option after its word. The extension for implicit
options makes the parentheses optional. -/
def dropSome (dialect : Dialect) : Nat → Nat → List Char → Option (List Char)
  | 0, _, _ => none
  | _, 0, _ => none
  | steps + 1, room + 1, cs => do
    match ← skip cs with
    | '(' :: rest =>
      let inner ← skip rest
      if dialect.contains .unwrapVariantNewtypes then dropUnwrapped dialect steps room inner
      else
        let rest ← dropValue dialect steps room inner
        expect ')' (← skipComma rest).2
    | rest => if dialect.contains .implicitSome then dropValue dialect steps room rest else none

/-- Drops the value of an option whose parentheses stand for those of the value
itself: nothing, one value, fields, or a tuple. -/
def dropUnwrapped (dialect : Dialect) : Nat → Nat → List Char → Option (List Char)
  | 0, _, _ => none
  | steps + 1, room, cs =>
    if cs.head? = some ')' then some cs.tail
    else do
      match ← shape? cs with
      | .fields => dropGroup dialect steps room cs
      | .tuple => dropInside dialect steps room ')' cs
      | .single =>
        let rest ← dropValue dialect steps room cs
        expect ')' (← skipComma rest).2

/-- Drops what stands between parentheses after the first one: fields if there
is a name with a colon, else the items of a tuple. -/
def dropGroup (dialect : Dialect) : Nat → Nat → List Char → Option (List Char)
  | 0, _, _ => none
  | steps + 1, room, cs => do
    let cs ← skip cs
    if startsField cs then
      match room with
      | 0 => none
      | room + 1 => dropFields dialect steps room cs
    else dropInside dialect steps room ')' cs

/-- Drops items up to a closing bracket, one level below. -/
def dropInside (dialect : Dialect) : Nat → Nat → Char → List Char → Option (List Char)
  | 0, _, _, _ => none
  | _, 0, _, _ => none
  | steps + 1, room + 1, close, cs => dropItems dialect steps room close cs

/-- Drops items up to a closing bracket. -/
def dropItems (dialect : Dialect) : Nat → Nat → Char → List Char → Option (List Char)
  | 0, _, _, _ => none
  | steps + 1, room, close, cs => do
    let cs ← skip cs
    if cs.head? = some close then some cs.tail
    else
      match room with
      | 0 => none
      | deeper + 1 =>
        match ← skipComma (← dropValue dialect steps deeper cs) with
        | (true, rest) => dropItems dialect steps room close rest
        | (false, rest) => expect close rest

/-- Drops named fields up to a closing parenthesis. -/
def dropFields (dialect : Dialect) : Nat → Nat → List Char → Option (List Char)
  | 0, _, _ => none
  | steps + 1, room, cs => do
    let cs ← skip cs
    if cs.head? = some ')' then some cs.tail
    else
      match room with
      | 0 => none
      | deeper + 1 =>
        let (_, rest) ← readName? cs
        let value ← skip (← expect ':' rest)
        match ← skipComma (← dropValue dialect steps deeper value) with
        | (true, rest) => dropFields dialect steps room rest
        | (false, rest) => expect ')' rest

/-- Drops the entries of a map up to its closing brace. -/
def dropEntries (dialect : Dialect) : Nat → Nat → List Char → Option (List Char)
  | 0, _, _ => none
  | steps + 1, room, cs => do
    let cs ← skip cs
    if cs.head? = some '\x7d' then some cs.tail
    else
      match room with
      | 0 => none
      | deeper + 1 =>
        let rest ← dropValue dialect steps deeper cs
        let value ← skip (← expect ':' rest)
        match ← skipComma (← dropValue dialect steps deeper value) with
        | (true, rest) => dropEntries dialect steps room rest
        | (false, rest) => expect '\x7d' rest

end

/-- Drops a value that may lie some levels deep. Every level and every part takes
a few steps at most. -/
def dropAny (dialect : Dialect) (room : Nat) (cs : List Char) : Option (List Char) :=
  dropValue dialect (4 * cs.length + 4) room cs

end TileEngine.Ron
