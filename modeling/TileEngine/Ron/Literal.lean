import TileEngine.Ron.Blank
import TileEngine.Text.Utf8

/-!
Quoted literals of a RON text: strings with escapes, raw strings between number
signs, strings of bytes, and characters.
-/

namespace TileEngine.Ron

/-- The value of a digit in base sixteen. -/
def hexValue? (c : Char) : Option Nat :=
  if c.isDigit then some (c.toNat - 48)
  else if 'a' ≤ c && c ≤ 'f' then some (c.toNat - 87)
  else if 'A' ≤ c && c ≤ 'F' then some (c.toNat - 55)
  else none

/-- A byte that is written with two digits. -/
def readByte : List Char → Option (UInt8 × List Char)
  | a :: b :: rest => do
    let a ← hexValue? a
    let b ← hexValue? b
    return ((a * 16 + b).toUInt8, rest)
  | _ => none

/-- The character of a number, if it is one. -/
def charOf? (code : Nat) : Option Char :=
  if code.isValidChar then some (Char.ofNat code) else none

/-- Digits up to a closing brace, and the number they write: at most as many as
the first argument says. -/
def readCode : Nat → Nat → List Char → Option (Nat × List Char)
  | _, code, '\x7d' :: rest => some (code, rest)
  | digits + 1, code, c :: rest => do readCode digits (code * 16 + (← hexValue? c)) rest
  | _, _, _ => none

/-- The escape by code point after its letter: between braces, one to six digits. -/
def readUnicode : List Char → Option (Char × List Char)
  | '\x7b' :: '\x7d' :: _ => none
  | '\x7b' :: rest => do
    let (code, rest) ← readCode 6 0 rest
    return (← charOf? code, rest)
  | _ => none

/-- Completes a character of which some bytes were escaped with further escaped
bytes, of which there may be as many as the first argument says. -/
def completeChar : Nat → List UInt8 → List Char → Option (Char × List Char)
  | more, bytes, cs =>
    match Text.decode? bytes with
    | some text => text.toList.head?.map fun c => (c, cs)
    | none =>
      match more, cs with
      | more + 1, '\\' :: 'x' :: cs => do
        let (byte, cs) ← readByte cs
        completeChar more (bytes ++ [byte]) cs
      | _, _ => none

/-- What a quoted literal holds. -/
inductive Content where
  | text
  | bytes
  deriving DecidableEq, Repr

/-- The character that one letter after a backslash stands for. -/
def letterEscape? (c : Char) : Option Char :=
  if c = '\'' || c = '"' || c = '\\' then some c
  else if c = 'n' then some '\n'
  else if c = 'r' then some '\r'
  else if c = 't' then some '\t'
  else if c = '0' then some '\x00'
  else none

/-- Reads an escape after its backslash. In bytes every escaped byte stands for
itself; in text the escaped bytes have to form characters, of at most `more`
further bytes. -/
def readEscape (content : Content) (more : Nat) : List Char → Option (Char × List Char)
  | 'x' :: rest => do
    let (byte, rest) ← readByte rest
    match content with
    | .bytes => return (Char.ofNat byte.toNat, rest)
    | .text => completeChar more [byte] rest
  | 'u' :: rest => readUnicode rest
  | c :: rest => (letterEscape? c).map fun c => (c, rest)
  | [] => none

/-- A blank that may follow a line end which a backslash takes away. -/
def isContinuation (c : Char) : Bool := c = ' ' || c = '\t' || c = '\n' || c = '\r'

/-- Reads what a backslash in a string stands for, after the backslash. At the end
of a line it takes the line end away, with the blanks that follow. -/
def readBackslash (content : Content) : List Char → Option (List Char × List Char)
  | '\n' :: rest => some ([], rest.dropWhile isContinuation)
  | '\r' :: '\n' :: rest => some ([], rest.dropWhile isContinuation)
  | rest => (readEscape content 3 rest).map fun (c, rest) => ([c], rest)

/-- Reads a string after its opening quote; the first argument bounds the number
of steps. -/
def readQuoted (content : Content) : Nat → List Char → Option (List Char × List Char)
  | 0, _ => none
  | _, [] => none
  | _ + 1, '"' :: rest => some ([], rest)
  | steps + 1, '\\' :: rest => do
    let (part, rest) ← readBackslash content rest
    let (text, rest) ← readQuoted content steps rest
    return (part ++ text, rest)
  | steps + 1, c :: rest => do
    let (text, rest) ← readQuoted content steps rest
    return (c :: text, rest)

/-- Takes characters up to a closing mark, which is dropped. -/
def readUpTo (mark : List Char) : List Char → Option (List Char × List Char)
  | [] => none
  | c :: cs =>
    if mark.isPrefixOf (c :: cs) then some ([], (c :: cs).drop mark.length)
    else (readUpTo mark cs).map fun (text, rest) => (c :: text, rest)

/-- A raw string after its letter: between quotes, with as many number signs
behind it as in front. -/
def readRaw (cs : List Char) : Option (List Char × List Char) :=
  match cs.span (· == '#') with
  | (signs, '"' :: rest) => readUpTo ('"' :: signs) rest
  | _ => none

/-- A string of text. -/
def readString : List Char → Option (List Char × List Char)
  | '"' :: rest => readQuoted .text (rest.length + 1) rest
  | 'r' :: rest => readRaw rest
  | _ => none

/-- A string of bytes, of which only the end is told. -/
def dropBytes : List Char → Option (List Char)
  | 'b' :: '"' :: rest => (readQuoted .bytes (rest.length + 1) rest).map Prod.snd
  | 'b' :: 'r' :: rest => (readRaw rest).map Prod.snd
  | _ => none

/-- A character between single quotes, of which only the end is told. -/
def dropChar : List Char → Option (List Char)
  | '\'' :: '\\' :: rest => do
    match ← readEscape .text 0 rest with
    | (_, '\'' :: rest) => some rest
    | _ => none
  | '\'' :: _ :: '\'' :: rest => some rest
  | _ => none

/-- A byte between single quotes, of which only the end is told. -/
def dropByte : List Char → Option (List Char)
  | 'b' :: '\'' :: '\\' :: 'u' :: _ => none
  | 'b' :: '\'' :: '\\' :: rest => do
    match ← readEscape .bytes 0 rest with
    | (_, '\'' :: rest) => some rest
    | _ => none
  | 'b' :: '\'' :: c :: '\'' :: rest => if c.toNat < 128 then some rest else none
  | _ => none

end TileEngine.Ron
