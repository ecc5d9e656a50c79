import TileEngine.Text.Unprintable

/-!
Quoted text: a string between double quotes in which every character that has no
visible form, and every quote and backslash, is escaped.
-/

namespace TileEngine.Text

/-- A digit of a number in base sixteen. -/
def hexDigit (n : Nat) : Char :=
  if n < 10 then Char.ofNat (48 + n) else Char.ofNat (87 + n)

/-- The digits of a number in base sixteen, without leading zeros. The first
argument bounds their count. -/
def hexDigitsUpTo : Nat → Nat → List Char
  | 0, _ => []
  | count + 1, n =>
    if n < 16 then [hexDigit n] else hexDigitsUpTo count (n / 16) ++ [hexDigit (n % 16)]

/-- The digits of a code point in base sixteen. -/
def hexDigits (n : Nat) : List Char := hexDigitsUpTo 8 n

/-- The escape by code point. -/
def escapeCode (c : Char) : List Char :=
  ['\\', 'u', '\x7b'] ++ hexDigits c.toNat ++ ['\x7d']

/-- How one character is written between double quotes. The flag says whether a
single quote is escaped too. -/
def escapeChar (single : Bool) (c : Char) : List Char :=
  if c = '\x00' then ['\\', '0']
  else if c = '\t' then ['\\', 't']
  else if c = '\r' then ['\\', 'r']
  else if c = '\n' then ['\\', 'n']
  else if c = '\\' then ['\\', '\\']
  else if c = '"' then ['\\', '"']
  else if c = '\'' then if single then ['\\', '\''] else ['\'']
  else if extendsGrapheme c || !isPrintable c then escapeCode c
  else [c]

/-- A string between double quotes. -/
def quote (single : Bool) (s : String) : String :=
  String.ofList ('"' :: s.toList.flatMap (escapeChar single) ++ ['"'])

end TileEngine.Text
