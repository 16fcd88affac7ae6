import Failsafe.Digits

/-!
# Durations

A duration is a whole number of nanoseconds below `2^64` seconds. `ofParts?` carries surplus nanoseconds
into the seconds and fails only past the largest duration; `text` writes a duration in the largest unit
that leaves a non-zero whole part.
-/

namespace Failsafe

/-- Nanoseconds in a second. -/
def Duration.second : Nat := 1000000000

/-- The first number of nanoseconds that is no duration: `2^64` seconds. -/
def Duration.limit : Nat := 18446744073709551616 * 1000000000

/-- A length of time in nanoseconds. -/
structure Duration where
  nanos : Nat
  nanos_lt : nanos < Duration.limit
deriving DecidableEq, Repr

namespace Duration

def zero : Duration := ⟨0, by decide⟩

/-- The longest duration. -/
def max : Duration := ⟨limit - 1, by decide⟩

/-- A number of nanoseconds, if it is a duration. -/
def ofNanos? (n : Nat) : Option Duration :=
  if h : n < limit then some ⟨n, h⟩ else none

/-- Whole seconds and nanoseconds; a billion nanoseconds or more carry into the seconds. -/
def ofParts? (secs nanos : Nat) : Option Duration := ofNanos? (secs * second + nanos)

/-- A whole number of seconds. -/
def ofSecs (s : UInt64) : Duration :=
  ⟨s.toNat * second, by have := s.toNat_lt; simp only [limit, second]; omega⟩

/-- Whole seconds of a duration. -/
def secs (d : Duration) : Nat := d.nanos / second

/-- Nanoseconds beyond the whole seconds. -/
def subsec (d : Duration) : Nat := d.nanos % second

/-- Whole milliseconds, a part of one counted as one. -/
def millisUp (d : Duration) : Nat := (d.nanos + 999999) / 1000000

/-- A whole part and a fraction counted in `1/scale`, without trailing zeros of the fraction. -/
def decimalText (whole fraction places : Nat) (unit : String) : String :=
  let kept := ((Digits.padded 10 places fraction).reverse.dropWhile (· == '0')).reverse
  let tail := if kept.isEmpty then "" else "." ++ String.ofList kept
  toString whole ++ tail ++ unit

/-- A duration in seconds, milliseconds, microseconds or nanoseconds, whichever is the largest unit with a
whole part. -/
def text (d : Duration) : String :=
  if second ≤ d.nanos then decimalText d.secs d.subsec 9 "s"
  else if 1000000 ≤ d.nanos then decimalText (d.nanos / 1000000) (d.nanos % 1000000) 6 "ms"
  else if 1000 ≤ d.nanos then decimalText (d.nanos / 1000) (d.nanos % 1000) 3 "µs"
  else decimalText d.nanos 0 0 "ns"

end Duration

end Failsafe
