import TileEngine.Ron.Literal
import TileEngine.Ron.Name

/-!
Numbers in a RON text. An integer has a sign, a base and digits, between which
underscores may stand, and may be followed by the name of its type. Where any
number will do, a decimal fraction is read too.
-/

namespace TileEngine.Ron

/-- A character that digits of an integer may consist of, whatever its base. -/
def isDigitMark (c : Char) : Bool := (hexValue? c).isSome || c = '_'

/-- A character of a decimal fraction. -/
def isFractionMark (c : Char) : Bool :=
  c.isDigit || c = 'e' || c = 'E' || c = '.' || c = '+' || c = '-' || c = '_'

/-- Takes the characters of a decimal fraction off the front. Two full stops in a
row belong to a range of numbers, and end it. -/
def spanFraction : List Char → List Char × List Char
  | [] => ([], [])
  | '.' :: '.' :: cs => ([], '.' :: '.' :: cs)
  | c :: cs =>
    if isFractionMark c then
      let (marks, rest) := spanFraction cs
      (c :: marks, rest)
    else ([], c :: cs)

/-- Takes a sign off the front: whether it is a minus, and the rest. -/
def readSign : List Char → Bool × List Char
  | '+' :: rest => (false, rest)
  | '-' :: rest => (true, rest)
  | cs => (false, cs)

/-- Takes the mark of a base off the front; without one the base is ten. -/
def readBase : List Char → Nat × List Char
  | '0' :: 'b' :: rest => (2, rest)
  | '0' :: 'o' :: rest => (8, rest)
  | '0' :: 'x' :: rest => (16, rest)
  | cs => (10, cs)

/-- The number that digits write in a base, after some that were read already. -/
def digitsValue (base : Nat) : Nat → List Char → Option Nat
  | value, [] => some value
  | value, c :: cs =>
    if c = '_' then digitsValue base value cs
    else do
      let digit ← hexValue? c
      if digit < base then digitsValue base (value * base + digit) cs else none

/-- An integer as it is written: whether it has a minus, its magnitude, and the
name of a type behind it. -/
structure Integer where
  negative : Bool
  magnitude : Nat
  suffix : List Char
  deriving DecidableEq, Repr

/-- Reads an integer. Its digits start with no underscore. -/
def readInteger (cs : List Char) : Option (Integer × List Char) := do
  let (negative, cs) := readSign cs
  let (base, cs) := readBase cs
  let (digits, cs) := cs.span isDigitMark
  if digits = [] || digits.head? = some '_' then none
  else
    let magnitude ← digitsValue base 0 digits
    let (suffix, rest) := cs.span Text.continuesIdentifier
    return (⟨negative, magnitude, suffix⟩, rest)

/-- Reads a number of a type of given width that has no sign; the name of another
type behind it is refused, a minus is none before zero. -/
def readWord (bits : Nat) (cs : List Char) : Option (Nat × List Char) := do
  let (n, rest) ← readInteger cs
  let named := n.suffix = [] || n.suffix = 'u' :: (toString bits).toList
  if named && n.magnitude < (if n.negative then 1 else 1 <<< bits) then return (n.magnitude, rest)
  else none

/-- The types of integers: their names, and the first magnitudes that are too
large for them without and with a minus. -/
def integerTypes : List (String × Nat × Nat) :=
  [8, 16, 32, 64].flatMap fun bits =>
    [("u" ++ toString bits, 1 <<< bits, 1),
      ("i" ++ toString bits, 1 <<< (bits - 1), 1 <<< (bits - 1) + 1)]

/-- Whether some type of integers can hold an integer: the one that is named, or
else the widest of its sign. -/
def Integer.fits (n : Integer) : Bool :=
  if n.suffix = [] then n.magnitude < (if n.negative then 1 <<< 63 + 1 else 1 <<< 64)
  else
    match integerTypes.lookup (String.ofList n.suffix) with
    | some (plain, negated) => n.magnitude < (if n.negative then negated else plain)
    | none => false

/-- Drops underscores, none of which may come before the first digit or follow a
full stop; the flag says whether one may stand here. -/
def dropUnderscores : Bool → List Char → Option (List Char)
  | _, [] => some []
  | allowed, c :: cs =>
    if c = '_' then if allowed then dropUnderscores allowed cs else none
    else
      let allowed := if c = '.' then false else allowed || c.isDigit || c = 'e' || c = 'E'
      (dropUnderscores allowed cs).map (c :: ·)

/-- Whether an exponent, or nothing, is all that is left. -/
def isExponent : List Char → Bool
  | [] => true
  | e :: cs =>
    let digits := (readSign cs).2
    (e = 'e' || e = 'E') && !digits.isEmpty && digits.all Char.isDigit

/-- Whether characters write a decimal fraction: digits with at most one full
stop among or around them, and maybe an exponent. -/
def isFraction (cs : List Char) : Bool :=
  let (whole, rest) := (readSign cs).2.span Char.isDigit
  match rest with
  | '.' :: rest =>
    let (fraction, rest) := rest.span Char.isDigit
    !(whole.isEmpty && fraction.isEmpty) && isExponent rest
  | rest => !whole.isEmpty && isExponent rest

/-- The words for numbers that have no digits. -/
def wordNumbers : List String := ["inf", "inff32", "inff64", "NaN", "NaNf32", "NaNf64"]

/-- Drops the name of a type of fractions, if one stands here. -/
def dropFractionSuffix (cs : List Char) : List Char :=
  match cs.span Text.continuesIdentifier with
  | (name, rest) => if name = "f32".toList || name = "f64".toList then rest else cs

/-- Drops a number in decimal notation, or one that is a word. -/
def dropFraction (cs : List Char) : Option (List Char) :=
  match readPlain? (readSign cs).2 with
  | some (name, rest) => if wordNumbers.any name.is then some rest else none
  | none => do
    let (marks, rest) := spanFraction cs
    if isFraction (← dropUnderscores false marks) then return dropFractionSuffix rest else none

/-- Whether a number reads on as a fraction where an integer would end. -/
def looksFractional (cs : List Char) : Bool :=
  let cs := (readSign cs).2
  (cs.takeWhile isDigitMark).length < (spanFraction cs).1.length

/-- Drops any number; an integer that is too large counts as a fraction. -/
def dropNumber (cs : List Char) : Option (List Char) :=
  match readInteger cs with
  | some (n, rest) => if !looksFractional cs && n.fits then some rest else dropFraction cs
  | none => dropFraction cs

end TileEngine.Ron
