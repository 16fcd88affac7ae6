/-!
# Tallies

How often each key was counted. Only keys that were counted are listed, in the order they were first seen.
-/

namespace Failsafe

/-- Counts by key. -/
abbrev Tally (κ : Type) := List (κ × Nat)

namespace Tally

variable {κ : Type} [DecidableEq κ]

/-- Counts a key once more. -/
def add : Tally κ → κ → Tally κ
  | [], key => [(key, 1)]
  | (k, n) :: rest, key => if k = key then (k, n + 1) :: rest else (k, n) :: add rest key

/-- How often a key was counted, if it ever was. -/
def count? : Tally κ → κ → Option Nat
  | [], _ => none
  | (k, n) :: rest, key => if k = key then some n else count? rest key

/-- All counts together. -/
def total : Tally κ → Nat
  | [] => 0
  | (_, n) :: rest => n + total rest

end Tally

end Failsafe
