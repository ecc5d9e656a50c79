import TileEngine.Text.Utf8

/-!
JSON values. A string keeps its text only if that text exists: malformed bytes
and halves of surrogate pairs may stand in a document, but cannot be read.
-/

namespace TileEngine.Json

/-- A number: an integer written without fraction and exponent, or any other. -/
inductive Numeral where
  | integer (negative : Bool) (magnitude : Nat)
  | real
  deriving DecidableEq, Repr

/-- A JSON value; the members of an object keep their order. -/
inductive Value where
  | null
  | bool (b : Bool)
  | number (n : Numeral)
  | string (text : Option String)
  | array (items : List Value)
  | object (members : List (Option String × Value))

namespace Value

/-- A number that is a 16-bit word. -/
def word? : Value → Option UInt16
  | .number (.integer false n) => if n < 65536 then some n.toUInt16 else none
  | _ => none

/-- A string with a text. -/
def text? : Value → Option String
  | .string text => text
  | _ => none

/-- The items of an array. -/
def items? : Value → Option (List Value)
  | .array items => some items
  | _ => none

/-- The words of an array of words. -/
def words? (v : Value) : Option (List UInt16) := do (← v.items?).mapM word?

/-- A number that is a word, or a null for none. -/
def optionalWord? : Value → Option (Option UInt16)
  | .null => some none
  | v => v.word?.map some

/-- The values of a member: none when it is absent, an error when it is there
twice. -/
def unique? (key : String) (members : List (Option String × Value)) : Option (Option Value) :=
  match members.filter (·.1 == some key) with
  | [] => some none
  | [member] => some (some member.2)
  | _ => none

/-- The values of known keys. They are looked up among the members of an object,
every key of which must have a text, or taken in order from an array that is not
longer than the keys. -/
def record? (keys : List String) : Value → Option (List (Option Value))
  | .object members =>
    if members.all (·.1.isSome) then keys.mapM (unique? · members) else none
  | .array items =>
    if items.length ≤ keys.length then
      some (items.map some ++ List.replicate (keys.length - items.length) none)
    else none
  | _ => none

end Value

end TileEngine.Json
