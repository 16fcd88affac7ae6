import Failsafe.Duration

/-!
# Durations and seconds

`toSeconds` is the sum of the whole seconds and the billionths, each as a double. `ofSeconds?` takes the
exact value of a double, rounds it to the nearest nanosecond with ties to even, and fails on negative
numbers, on anything that is no number and past the longest duration. `power` is an integer power by
repeated squaring, in doubles.
-/

namespace Failsafe

/-- `n / d` rounded to the nearest whole number, a tie to the even one. -/
def roundHalfEven (n d : Nat) : Nat :=
  let q := n / d
  let r := n % d
  if 2 * r < d then q else if 2 * r = d then q + q % 2 else q + 1

namespace Duration

/-- A duration as a double number of seconds. -/
def toSeconds (d : Duration) : Float :=
  d.secs.toUInt64.toFloat + d.subsec.toUInt64.toFloat / 1000000000.0

/-- The nanoseconds nearest to `m · 2^q` seconds. -/
def nearestNanos (m : Nat) (q : Int) : Nat :=
  match q with
  | .ofNat k => m * Nat.pow 2 k * second
  | .negSucc k => roundHalfEven (m * second) (Nat.pow 2 (k + 1))

/-- The duration nearest to a number of seconds, if there is one. -/
def ofSeconds? (x : Float) : Option Duration :=
  match x.toModel.unpack with
  | .zero _ => some zero
  | .finite .positive m q _ => ofNanos? (nearestNanos m q)
  | .finite .negative _ _ _ | .infinity _ | .notANumber => none

end Duration

/-- `r · a^n`, multiplying `r` by the squares of `a` that the binary digits of `n` select, low digit
first. -/
def powerFrom (a : Float) (n : Nat) (r : Float) : Float :=
  let r := if n % 2 = 1 then r * a else r
  if h : n / 2 = 0 then r else powerFrom (a * a) (n / 2) r
termination_by n
decreasing_by omega

/-- `a^n`. -/
def power (a : Float) (n : Nat) : Float := powerFrom a n 1.0

/-- The smaller of two doubles; when one is no number, the other. -/
def lesser (a b : Float) : Float :=
  if a.isNaN then b else if b.isNaN then a else if a < b then a else b

end Failsafe
