import TileEngine.Ron.Literal
import TileEngine.Ron.Name

/-!
The shape of what stands between parentheses. Where the parentheses of an option
may be those of its value as well, it is decided before the value is read, by a
look at the brackets and commas ahead.
-/

namespace TileEngine.Ron

/-- What parentheses hold: named fields, several values, or a single value. -/
inductive Shape where
  | fields
  | tuple
  | single
  deriving DecidableEq, Repr

/-- Whether a string is without a closing quote, read after its opening one. A
wrong escape before a quote ends the search: then this is no string at all. -/
def isUnclosed (content : Content) : Nat → List Char → Bool
  | 0, _ => true
  | _, [] => true
  | _ + 1, '"' :: _ => false
  | steps + 1, '\\' :: rest =>
    if rest.contains '"' then
      match readBackslash content rest with
      | some (_, rest) => isUnclosed content steps rest
      | none => false
    else true
  | steps + 1, _ :: rest => isUnclosed content steps rest

/-- Passes a string after its opening quote, or nothing if there is none; no answer
where one does not end. -/
def passQuoted (content : Content) (start cs : List Char) : Option (List Char) :=
  match readQuoted content (cs.length + 1) cs with
  | some (_, rest) => some rest
  | none => if isUnclosed content (cs.length + 1) cs then none else some start

/-- Passes a raw string after its letter, or nothing if there is none; no answer
where one does not end. -/
def passRaw (start cs : List Char) : Option (List Char) :=
  match cs.span (· == '#') with
  | (_, '"' :: _) => (readRaw cs).map Prod.snd
  | _ => some start

/-- Passes a string of text, if one comes next. -/
def passText (cs : List Char) : Option (List Char) :=
  match cs with
  | '"' :: rest => passQuoted .text cs rest
  | 'r' :: rest => passRaw cs rest
  | _ => some cs

/-- Passes a string of bytes, if one comes next. A string of text stays, but has to
end. -/
def passBytes (cs : List Char) : Option (List Char) :=
  match cs with
  | 'b' :: '"' :: rest => passQuoted .bytes cs rest
  | 'b' :: 'r' :: rest => passRaw cs rest
  | _ => (passText cs).map fun _ => cs

/-- Whether a character opens a bracket. -/
def opensBracket (c : Char) : Bool := c = '(' || c = '[' || c = '\x7b'

/-- Whether a character closes a bracket. -/
def closesBracket (c : Char) : Bool := c = ')' || c = ']' || c = '\x7d'

/-- The shape after a comma: a value that follows makes it a tuple. -/
def shapeAfterComma (cs : List Char) : Option Shape := do
  return if (← skip cs).head? = some ')' then .single else .tuple

/-- Looks for a comma inside the parentheses, or for their end. The first argument
bounds the number of steps, the second is the number of further open brackets. -/
def findShape : Nat → Nat → List Char → Option Shape
  | 0, _, _ => none
  | steps + 1, depth, cs => do
    let cs ← skip cs
    match ← passBytes (← passText ((dropChar cs).getD cs)) with
    | [] => none
    | c :: cs =>
      if opensBracket c then findShape steps (depth + 1) cs
      else if closesBracket c then
        match depth with
        | 0 => return .single
        | depth + 1 => findShape steps depth cs
      else if c = ',' && depth = 0 then shapeAfterComma cs
      else findShape steps depth cs

/-- The shape of what follows an opening parenthesis. A name decides it if a colon,
a comma or the closing parenthesis comes next. -/
def shape? (cs : List Char) : Option Shape :=
  match readName? cs with
  | none => findShape (cs.length + 1) 0 cs
  | some (_, rest) => do
    match ← skip rest with
    | ':' :: _ => return .fields
    | ',' :: rest => shapeAfterComma rest
    | ')' :: _ => return .single
    | rest => findShape (rest.length + 1) 0 rest

end TileEngine.Ron
