import Failsafe.Digits

/-!
# Characters by number

A character may be given by its code point in a fixed number of hexadecimal digits.
-/

namespace Failsafe.Text

/-- The character of a code point that is not half of a surrogate pair. -/
def scalar? (n : Nat) : Option Char :=
  if n < 0xD800 ∨ (0xE000 ≤ n ∧ n < 0x110000) then some (Char.ofNat n) else none

/-- A character given by its number in `n` hexadecimal digits. -/
def numbered? (n : Nat) (cs : List Char) : Option (Char × List Char) := do
  guard (n ≤ cs.length)
  let code ← Digits.value? 16 (cs.take n)
  let c ← scalar? code
  some (c, cs.drop n)

end Failsafe.Text
