import Failsafe.Decimal.Read
import Failsafe.Json.Parts
import Failsafe.Unicode.Lowercase

/-!
# Values that convert

Readers for settings, which may come from a file or from a variable and then have the wrong type. Flags and
numbers convert into each other, and texts that spell one are read. A double given for a whole number is rounded,
a half away from zero, and what is out of range goes to the nearest end of the range.
-/

namespace Failsafe

/-- A flag spelled as a word, in any case. -/
def flagWord? (s : String) : Option Bool :=
  let word := Unicode.lowercase s
  if word = "true" ∨ word = "on" ∨ word = "yes" then some true
  else if word = "false" ∨ word = "off" ∨ word = "no" then some false
  else none

/-- Digits of a whole number, one at least. -/
def wholeNumber? (digits : List Char) : Option Nat :=
  if digits.isEmpty || !digits.all Char.isDigit then none else some (Digits.value digits)

/-- A whole number of 64 bits without a sign; a plus may stand in front. -/
def readUInt64? (s : String) : Option UInt64 := do
  let n ← wholeNumber? (match s.toList with
    | '+' :: rest => rest
    | cs => cs)
  if n < UInt64.size then some n.toUInt64 else none

/-- A whole number of 64 bits with a sign. -/
def readInt64? (s : String) : Option Int := do
  let (negative, digits) := Decimal.sign s.toList
  let n ← wholeNumber? digits
  if negative then (if n ≤ Nat.pow 2 63 then some (-(n : Int)) else none)
  else if n < Nat.pow 2 63 then some n
  else none

namespace Json

/-- A flag. -/
def toFlag? : Json → Option Bool
  | .bool b => some b
  | .number (.int n) => some (n ≠ 0)
  | .number (.float x) => some (x != 0.0)
  | .text "1" => some true
  | .text "0" => some false
  | .text s => flagWord? s
  | _ => none

/-- A whole number of 64 bits. -/
def toUInt64? : Json → Option UInt64
  | .bool b => some (if b then 1 else 0)
  | .number (.int n) => if 0 ≤ n ∧ n < UInt64.size then some n.toNat.toUInt64 else none
  | .number (.float x) => some x.round.toUInt64
  | .text s =>
    match flagWord? s with
    | some b => some (if b then 1 else 0)
    | none => readUInt64? s
  | _ => none

/-- A whole number of 32 bits. -/
def toUInt32? (v : Json) : Option UInt32 := do
  let n ← v.toUInt64?
  if n.toNat < UInt32.size then some n.toNat.toUInt32 else none

/-- A double. -/
def toFloat? : Json → Option Float
  | .bool b => some (if b then 1.0 else 0.0)
  | .number (.int n) => some (Float.ofInt n)
  | .number (.float x) => some x
  | .text s =>
    match flagWord? s with
    | some b => some (if b then 1.0 else 0.0)
    | none => Decimal.read? s
  | _ => none

end Json

end Failsafe
