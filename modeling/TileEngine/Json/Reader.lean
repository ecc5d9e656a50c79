import TileEngine.Json.Value

/-!
Reading JSON from bytes. A document is one value between blanks. Strings may hold
any byte from the blank on; only their escapes are checked here.
-/

namespace TileEngine.Json

/-- Blank, tab, line feed or carriage return. -/
def isBlank (b : UInt8) : Bool := b == 0x20 || b == 0x09 || b == 0x0A || b == 0x0D

/-- Drops blanks. -/
def skipBlanks (bytes : List UInt8) : List UInt8 := bytes.dropWhile isBlank

/-- Whether a byte is a decimal digit. -/
def isDigit (b : UInt8) : Bool := 0x30 ≤ b && b ≤ 0x39

/-- The value of a digit in base sixteen. -/
def hexValue? (b : UInt8) : Option Nat :=
  if isDigit b then some (b.toNat - 0x30)
  else if 0x41 ≤ b && b ≤ 0x46 then some (b.toNat - 0x37)
  else if 0x61 ≤ b && b ≤ 0x66 then some (b.toNat - 0x57)
  else none

/-- Four digits in base sixteen. -/
def hexWord? : List UInt8 → Option (Nat × List UInt8)
  | a :: b :: c :: d :: rest => do
    let a ← hexValue? a
    let b ← hexValue? b
    let c ← hexValue? c
    let d ← hexValue? d
    return (((a * 16 + b) * 16 + c) * 16 + d, rest)
  | _ => none

/-- What is known of a string while it is read: its bytes in reverse, the first
half of a surrogate pair that waits for the second, and whether all is well. -/
structure StringState where
  reversed : List UInt8
  half : Option Nat
  sound : Bool
  deriving DecidableEq, Repr

namespace StringState

/-- A half that was waiting stays alone. -/
def settle (s : StringState) : StringState :=
  match s.half with
  | none => s
  | some _ => { s with half := none, sound := false }

/-- Appends bytes. -/
def append (s : StringState) (bytes : List UInt8) : StringState :=
  let s := s.settle
  { s with reversed := bytes.reverse ++ s.reversed }

/-- Appends a character. -/
def appendChar (s : StringState) (code : Nat) : StringState :=
  { s with reversed := (Text.encode (String.singleton (Char.ofNat code))).reverse ++ s.reversed }

/-- Appends an escaped unit: a character, the first half of a pair, or the second
half, which completes the half that waits. -/
def appendUnit (s : StringState) (unit : Nat) : StringState :=
  if 0xD800 ≤ unit && unit < 0xDC00 then { s.settle with half := some unit }
  else if 0xDC00 ≤ unit && unit < 0xE000 then
    match s.half with
    | some first =>
      let s := { s with half := none }
      s.appendChar (0x10000 + (first - 0xD800) * 0x400 + (unit - 0xDC00))
    | none => { s with sound := false }
  else s.settle.appendChar unit

/-- The text of the finished string, if it has one. -/
def text? (s : StringState) : Option String :=
  let s := s.settle
  if s.sound then Text.decode? s.reversed.reverse else none

end StringState

/-- The byte that a single-letter escape stands for. -/
def escapeByte? (b : UInt8) : Option UInt8 :=
  if b == 0x22 || b == 0x5C || b == 0x2F then some b
  else if b == 0x62 then some 0x08
  else if b == 0x66 then some 0x0C
  else if b == 0x6E then some 0x0A
  else if b == 0x72 then some 0x0D
  else if b == 0x74 then some 0x09
  else none

/-- Reads a string after its opening quote; the first argument bounds the number
of steps. -/
def readString : Nat → StringState → List UInt8 → Option (Option String × List UInt8)
  | 0, _, _ => none
  | _, _, [] => none
  | steps + 1, s, b :: rest =>
    if b == 0x22 then some (s.text?, rest)
    else if b < 0x20 then none
    else if b == 0x5C then
      match rest with
      | [] => none
      | e :: rest =>
        if e == 0x75 then do
          let (unit, rest) ← hexWord? rest
          readString steps (s.appendUnit unit) rest
        else do
          let byte ← escapeByte? e
          readString steps (s.append [byte]) rest
    else readString steps (s.append [b]) rest

/-- The number that decimal digits write. -/
def decimalValue (digits : List UInt8) : Nat :=
  digits.foldl (fun n d => n * 10 + (d.toNat - 0x30)) 0

/-- At least one digit. -/
def someDigits? (bytes : List UInt8) : Option (List UInt8 × List UInt8) :=
  match bytes.span isDigit with
  | ([], _) => none
  | parts => some parts

/-- A fraction, if one starts here: whether there was one, and the rest. -/
def readFraction : List UInt8 → Option (Bool × List UInt8)
  | 0x2E :: rest => (someDigits? rest).map fun parts => (true, parts.2)
  | bytes => some (false, bytes)

/-- An exponent, if one starts here: whether there was one, and the rest. -/
def readExponent : List UInt8 → Option (Bool × List UInt8)
  | [] => some (false, [])
  | b :: rest =>
    if b == 0x65 || b == 0x45 then
      let digits := match rest with
        | sign :: more => if sign == 0x2B || sign == 0x2D then more else rest
        | [] => []
      (someDigits? digits).map fun parts => (true, parts.2)
    else some (false, b :: rest)

/-- Reads a number. Its integer part has no leading zero. -/
def readNumber (bytes : List UInt8) : Option (Numeral × List UInt8) := do
  let (negative, bytes) := match bytes with
    | 0x2D :: rest => (true, rest)
    | _ => (false, bytes)
  let (digits, rest) ← someDigits? bytes
  if digits.head? == some 0x30 && digits.length > 1 then none
  let (fraction, rest) ← readFraction rest
  let (exponent, rest) ← readExponent rest
  let magnitude := decimalValue digits
  if fraction || exponent || (negative && magnitude == 0) then return (.real, rest)
  return (.integer negative magnitude, rest)

/-- Drops a word from the front. -/
def expect? (word : List UInt8) (bytes : List UInt8) : Option (List UInt8) :=
  if word.isPrefixOf bytes then some (bytes.drop word.length) else none

mutual

/-- Reads a value; the first argument bounds the depth and the length. -/
def readValue : Nat → List UInt8 → Option (Value × List UInt8)
  | 0, _ => none
  | steps + 1, bytes =>
    match skipBlanks bytes with
    | [] => none
    | b :: rest =>
      if b == 0x22 then do
        let (text, rest) ← readString (rest.length + 1) ⟨[], none, true⟩ rest
        return (.string text, rest)
      else if b == 0x5B then
        match skipBlanks rest with
        | 0x5D :: rest => some (.array [], rest)
        | rest => do
          let (items, rest) ← readItems steps rest
          return (.array items, rest)
      else if b == 0x7B then
        match skipBlanks rest with
        | 0x7D :: rest => some (.object [], rest)
        | rest => do
          let (members, rest) ← readMembers steps rest
          return (.object members, rest)
      else if b == 0x6E then do return (.null, ← expect? [0x75, 0x6C, 0x6C] rest)
      else if b == 0x74 then do return (.bool true, ← expect? [0x72, 0x75, 0x65] rest)
      else if b == 0x66 then do return (.bool false, ← expect? [0x61, 0x6C, 0x73, 0x65] rest)
      else do
        let (n, rest) ← readNumber (b :: rest)
        return (.number n, rest)

/-- Reads the items of an array up to its closing bracket. -/
def readItems : Nat → List UInt8 → Option (List Value × List UInt8)
  | 0, _ => none
  | steps + 1, bytes => do
    let (item, rest) ← readValue steps bytes
    match skipBlanks rest with
    | 0x5D :: rest => return ([item], rest)
    | 0x2C :: rest =>
      let (items, rest) ← readItems steps rest
      return (item :: items, rest)
    | _ => none

/-- Reads the members of an object up to its closing brace. -/
def readMembers : Nat → List UInt8 → Option (List (Option String × Value) × List UInt8)
  | 0, _ => none
  | steps + 1, bytes =>
    match skipBlanks bytes with
    | 0x22 :: rest => do
      let (key, rest) ← readString (rest.length + 1) ⟨[], none, true⟩ rest
      match skipBlanks rest with
      | 0x3A :: rest =>
        let (value, rest) ← readValue steps rest
        match skipBlanks rest with
        | 0x7D :: rest => return ([(key, value)], rest)
        | 0x2C :: rest =>
          let (members, rest) ← readMembers steps rest
          return ((key, value) :: members, rest)
        | _ => none
      | _ => none
    | _ => none

end

/-- Reads a whole document. -/
def readDocument (bytes : List UInt8) : Option Value :=
  match readValue (2 * bytes.length + 2) bytes with
  | some (value, rest) => if (skipBlanks rest).isEmpty then some value else none
  | none => none

end TileEngine.Json
