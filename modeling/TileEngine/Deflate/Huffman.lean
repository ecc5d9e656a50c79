import TileEngine.Deflate.Bits

/-!
Canonical prefix codes. A code is given by the length of each symbol's word;
words of one length are numbered in symbol order, and shorter words come first.
-/

namespace TileEngine.Deflate

/-- The longest word of a code, in bits. -/
def maxLength : Nat := 15

/-- A canonical code: how many words each length has, and the symbols that have
a word, ordered by length and then by symbol. -/
structure Huffman where
  counts : List Nat
  symbols : Array Nat
  deriving DecidableEq, Repr

namespace Huffman

/-- The symbols of one word length in order. -/
def symbolsOf (lengths : Array Nat) (length : Nat) : List Nat :=
  (List.range lengths.size).filter fun symbol => lengths.getD symbol 0 == length

/-- The code with the given word lengths; length zero means no word. -/
def ofLengths (lengths : Array Nat) : Huffman :=
  let classes := (List.range maxLength).map fun i => symbolsOf lengths (i + 1)
  ⟨classes.map List.length, classes.flatten.toArray⟩

/-- The part of the word space that stays free after each length, counted in
words of that length; none when a length has more words than there is room for. -/
def roomLeft : (room : Nat) → List Nat → Option Nat
  | room, [] => some room
  | room, count :: rest => if count > 2 * room then none else roomLeft (2 * room - count) rest

/-- Every sequence of bits starts with a word of the code. -/
def isComplete (h : Huffman) : Bool := roomLeft 1 h.counts == some 0

/-- A code without words, or with a single word of one bit. -/
def isTrivial (h : Huffman) : Bool :=
  h.symbols.isEmpty || (h.symbols.size == 1 && h.counts.head? == some 1)

/-- Reads one word bit by bit. `word` is what was read so far less the first
word of this length, `index` the number of symbols with shorter words. -/
def decodeFrom (h : Huffman) : List Nat → (word index : Nat) → BitReader →
    Except Fault (Nat × BitReader)
  | [], _, _, _ => .error .damaged
  | count :: rest, word, index, r => do
    let (bit, r) ← r.bit
    let word := 2 * word + bit
    if word < count then
      match (h.symbols[index + word]? : Option Nat) with
      | some symbol => return (symbol, r)
      | none => .error .damaged
    else h.decodeFrom rest (word - count) (index + count) r

/-- Reads one symbol. -/
def decode (h : Huffman) (r : BitReader) : Except Fault (Nat × BitReader) :=
  h.decodeFrom h.counts 0 0 r

end Huffman

end TileEngine.Deflate
