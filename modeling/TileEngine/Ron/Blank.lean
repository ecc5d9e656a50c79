/-!
What may stand between the tokens of a RON text: blank characters, line comments
and nested block comments.
-/

namespace TileEngine.Ron

/-- The blank characters: the ASCII ones and the marks of Unicode's pattern
syntax. The no-break space is none of them. -/
def isBlank (c : Char) : Bool :=
  c = ' ' || ('\t' ≤ c && c ≤ '\r') || c = '\u0085' || c = '\u200E' || c = '\u200F' ||
    c = '\u2028' || c = '\u2029'

/-- Drops the rest of block comments that are open at some depth. -/
def dropBlock : Nat → List Char → Option (List Char)
  | 0, cs => some cs
  | _ + 1, [] => none
  | depth + 1, '/' :: '*' :: cs => dropBlock (depth + 2) cs
  | depth + 1, '*' :: '/' :: cs => dropBlock depth cs
  | depth + 1, _ :: cs => dropBlock (depth + 1) cs

/-- Drops a line comment up to the end of its line. -/
def dropLine (cs : List Char) : List Char := cs.dropWhile (· != '\n')

/-- Drops blanks and comments; the first argument bounds the number of steps.
There is no answer where a slash starts no comment or a comment does not end. -/
def skipSteps : Nat → List Char → Option (List Char)
  | 0, cs => some cs
  | _, [] => some []
  | steps + 1, c :: cs =>
    if isBlank c then skipSteps steps cs
    else if c = '/' then
      match cs with
      | '/' :: cs => skipSteps steps (dropLine cs)
      | '*' :: cs => do skipSteps steps (← dropBlock 1 cs)
      | _ => none
    else some (c :: cs)

/-- Drops blanks and comments; each step drops at least one character. -/
def skip (cs : List Char) : Option (List Char) := skipSteps cs.length cs

/-- Drops blanks, then one given character. -/
def expect (c : Char) (cs : List Char) : Option (List Char) := do
  match ← skip cs with
  | d :: rest => if d = c then some rest else none
  | [] => none

/-- Drops blanks and a comma if there is one; the flag says whether there was. -/
def skipComma (cs : List Char) : Option (Bool × List Char) := do
  match ← skip cs with
  | ',' :: rest => return (true, ← skip rest)
  | rest => return (false, rest)

end TileEngine.Ron
