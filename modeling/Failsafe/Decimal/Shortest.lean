/-!
# Shortest decimals

A finite positive double is `m · 2^q`. `shortest tie m q` is the decimal with the fewest digits that lies in
the interval of reals which round to that double; among decimals of that length it is the nearest, and of
two equally near ones the one that `tie` names.

The search looks, for one digit, two digits and so on, only at the two neighbours of the value on the
decimal grid of that length: if any point of a grid lies in the interval, one of the value's two
neighbours on that grid does.
-/

namespace Failsafe.Decimal

/-- Which of two equally near neighbours is taken. -/
inductive Tie where
  /-- The larger one. -/
  | up
  /-- The one with an even last digit. -/
  | even
deriving DecidableEq, Repr

/-- Whether the lower neighbour, a multiple `d` of the grid, is taken in a tie. -/
def Tie.takesLower (tie : Tie) (d : Nat) : Bool :=
  match tie with
  | .up => false
  | .even => d % 2 == 0

/-- A positive decimal `digits · 10^exponent`. -/
structure Scaled where
  digits : Nat
  exponent : Int
deriving DecidableEq, Repr

/-- A non-negative fraction, kept as a numerator over a positive denominator. -/
structure Ratio where
  num : Nat
  den : Nat

namespace Ratio

/-- `n · 2^q` as a fraction. -/
def scaled (n : Nat) (q : Int) : Ratio :=
  match q with
  | .ofNat k => ⟨n * Nat.pow 2 k, 1⟩
  | .negSucc k => ⟨n, Nat.pow 2 (k + 1)⟩

/-- `n · 10^e` as a fraction. -/
def decimal (n : Nat) (e : Int) : Ratio :=
  match e with
  | .ofNat k => ⟨n * Nat.pow 10 k, 1⟩
  | .negSucc k => ⟨n, Nat.pow 10 (k + 1)⟩

def lt (a b : Ratio) : Bool := a.num * b.den < b.num * a.den

def le (a b : Ratio) : Bool := a.num * b.den ≤ b.num * a.den

/-- The distance between two fractions. -/
def dist (a b : Ratio) : Ratio :=
  let x := a.num * b.den
  let y := b.num * a.den
  ⟨(x - y) + (y - x), a.den * b.den⟩

end Ratio

/-- The reals that round to `m · 2^q`: they reach half-way to each neighbour, and the neighbour below a
power of two is twice as near. -/
structure Interval where
  low : Ratio
  high : Ratio
  closed : Bool

/-- The interval of a double with mantissa `m` and exponent `q`. The half-way points belong to it when the
mantissa is even. -/
def Interval.around (m : Nat) (q : Int) : Interval :=
  let below := if m = Nat.pow 2 52 ∧ q ≠ -1074 then 1 else 2
  { low := .scaled (4 * m - below) (q - 2)
    high := .scaled (4 * m + 2) (q - 2)
    closed := m % 2 == 0 }

def Interval.contains (i : Interval) (r : Ratio) : Bool :=
  if i.closed then i.low.le r && r.le i.high else i.low.lt r && r.lt i.high

/-- The number of places before the point of a value: the least `k` with `value < 10^k`, found by walking
from an estimate. -/
def places (v : Ratio) : Nat → Int → Int
  | 0, k => k
  | fuel + 1, k =>
    if v.lt (.decimal 1 (k - 1)) then places v fuel (k - 1)
    else if v.lt (.decimal 1 k) then k
    else places v fuel (k + 1)

/-- The neighbours of `v` on the grid of multiples of `10^e`: the multiple at or below it and the next. -/
def gridFloor (v : Ratio) (e : Int) : Nat :=
  match e with
  | .ofNat k => v.num / (v.den * Nat.pow 10 k)
  | .negSucc k => v.num * Nat.pow 10 (k + 1) / v.den

/-- The nearer of the value's two neighbours on the grid of multiples of `10^e` that lie in the interval. -/
def onGrid? (tie : Tie) (i : Interval) (v : Ratio) (e : Int) : Option Scaled :=
  let d := gridFloor v e
  let lower := Ratio.decimal d e
  let upper := Ratio.decimal (d + 1) e
  match 0 < d && i.contains lower, i.contains upper with
  | true, true =>
    let isLower := if tie.takesLower d then (v.dist lower).le (upper.dist v)
      else (v.dist lower).lt (upper.dist v)
    if isLower then some ⟨d, e⟩ else some ⟨d + 1, e⟩
  | true, false => some ⟨d, e⟩
  | false, true => some ⟨d + 1, e⟩
  | false, false => none

/-- Tries grids of more and more digits; seventeen always suffice. -/
def search (tie : Tie) (i : Interval) (v : Ratio) (k : Int) : Nat → Nat → Scaled
  | 0, n => ⟨gridFloor v (k - n), k - n⟩
  | fuel + 1, n =>
    match onGrid? tie i v (k - n) with
    | some s => s
    | none => search tie i v k fuel (n + 1)

/-- Drops trailing zeros of the digits, raising the exponent. -/
def Scaled.trim : Nat → Scaled → Scaled
  | 0, s => s
  | fuel + 1, s =>
    if s.digits ≠ 0 ∧ s.digits % 10 = 0 then trim fuel ⟨s.digits / 10, s.exponent + 1⟩ else s

/-- The decimal with the fewest digits that reads back as the double `m · 2^q`. -/
def shortest (tie : Tie) (m : Nat) (q : Int) : Scaled :=
  let v := Ratio.scaled m q
  let estimate : Int := ((q + (Nat.log2 m : Int)) * 30103).fdiv 100000 + 1
  let k := places v 8 estimate
  (search tie (.around m q) v k 17 1).trim 20

end Failsafe.Decimal
