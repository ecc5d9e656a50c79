import TileEngine.Ron.Number

/-!
Ranges of numbers in a RON text: two full stops, with or without a number on each
side. An equals sign after them includes the end, which must then be there. No
blank may stand inside a range.
-/

namespace TileEngine.Ron

/-- Drops a number, or a byte between single quotes. -/
def dropBound : List Char → Option (List Char)
  | 'b' :: '\'' :: cs => dropByte ('b' :: '\'' :: cs)
  | cs => dropNumber cs

/-- Whether a number that is a word comes next. -/
def startsWordNumber (cs : List Char) : Bool :=
  match readPlain? cs with
  | some (name, _) => wordNumbers.any name.is
  | none => false

/-- Whether a bound of a range comes next, by its first characters. -/
def startsBound : List Char → Bool
  | [] => false
  | 'b' :: cs => cs.head? = some '\''
  | c :: cs => c.isDigit || c = '+' || c = '-' || c = '.' || startsWordNumber (c :: cs)

/-- Drops the end of a range behind its full stops. -/
def dropRangeEnd : List Char → Option (List Char)
  | '=' :: cs => dropBound cs
  | cs => if startsBound cs then dropBound cs else some cs

/-- Drops what makes a range of the number in front, if that is there. -/
def dropRangeTail : List Char → Option (List Char)
  | '.' :: '.' :: cs => dropRangeEnd cs
  | cs => some cs

/-- Drops a number, or a range of numbers. -/
def dropRange : List Char → Option (List Char)
  | '.' :: '.' :: cs => dropRangeEnd cs
  | cs => do dropRangeTail (← dropBound cs)

end TileEngine.Ron
