/-!
Spans of time. A span is a number of nanoseconds whose whole seconds fit a
64-bit word; adding beyond that bound is refused.
-/

namespace TileEngine

/-- Nanoseconds of one second. -/
def Duration.perSecond : Nat := 1000000000

/-- The first number of nanoseconds that is no span: `2 ^ 64` seconds. -/
def Duration.bound : Nat := UInt64.size * Duration.perSecond

/-- A span of time in nanoseconds. -/
structure Duration where
  nanos : Nat
  nanos_lt : nanos < Duration.bound
  deriving DecidableEq, Repr

namespace Duration

/-- No time. -/
def zero : Duration := ⟨0, by decide⟩

instance : Inhabited Duration := ⟨zero⟩

/-- The span of a number of nanoseconds, if it is one. -/
def ofNanos? (nanos : Nat) : Option Duration :=
  if h : nanos < bound then some ⟨nanos, h⟩ else none

/-- The span of whole seconds and further nanoseconds, if it is one. -/
def ofParts? (seconds nanos : Nat) : Option Duration := ofNanos? (seconds * perSecond + nanos)

/-- A 64-bit number of milliseconds. -/
def ofMillis (millis : UInt64) : Duration :=
  ⟨millis.toNat * 1000000, by
    have := millis.toNat_lt
    simp only [bound, perSecond, UInt64.size]
    omega⟩

/-- The whole seconds. -/
def seconds (d : Duration) : Nat := d.nanos / perSecond

/-- The nanoseconds beyond the whole seconds. -/
def subsecond (d : Duration) : Nat := d.nanos % perSecond

/-- The sum, if it is a span. -/
def add? (a b : Duration) : Option Duration := ofNanos? (a.nanos + b.nanos)

/-- How much later one time is than another; nothing if it is not. -/
def since (a b : Duration) : Duration :=
  ⟨a.nanos - b.nanos, Nat.lt_of_le_of_lt (Nat.sub_le _ _) a.nanos_lt⟩

/-- An equal share of one second, rounded down; nothing for zero shares. -/
def secondOver (shares : Nat) : Duration :=
  ⟨perSecond / shares, Nat.lt_of_le_of_lt (Nat.div_le_self _ _) (by decide)⟩

/-- Decimal digits of a number, padded with zeros on the left. -/
def paddedDigits (width n : Nat) : List Char :=
  let digits := Nat.toDigits 10 n
  List.replicate (width - digits.length) '0' ++ digits

/-- A number with a fraction of the given number of digits, of which trailing
zeros are dropped. -/
def decimal (whole fraction width : Nat) : String :=
  let digits := (paddedDigits width fraction).reverse.dropWhile (· == '0')
  if digits.isEmpty then toString whole
  else toString whole ++ "." ++ String.ofList digits.reverse

/-- The text of a span in the largest unit that is at most its value. -/
def describe (d : Duration) : String :=
  if d.nanos ≥ perSecond then decimal d.seconds d.subsecond 9 ++ "s"
  else if d.nanos ≥ 1000000 then decimal (d.nanos / 1000000) (d.nanos % 1000000) 6 ++ "ms"
  else if d.nanos ≥ 1000 then decimal (d.nanos / 1000) (d.nanos % 1000) 3 ++ "µs"
  else toString d.nanos ++ "ns"

end Duration

end TileEngine
