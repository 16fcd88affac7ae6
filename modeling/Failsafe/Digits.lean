/-!
# Digits

Numbers written in a base: `Digits.padded` writes a number with zeros in front, `Digits.value` and
`Digits.value?` read digits.
-/

namespace Failsafe.Digits

/-- A number in a base, with zeros in front to fill `width` places. -/
def padded (base width n : Nat) : List Char :=
  let digits := Nat.toDigits base n
  List.replicate (width - digits.length) '0' ++ digits

/-- The value of a digit below 16; letters may be small or capital. -/
def hex? (c : Char) : Option Nat :=
  if '0' ≤ c ∧ c ≤ '9' then some (c.toNat - '0'.toNat)
  else if 'a' ≤ c ∧ c ≤ 'f' then some (c.toNat - 'a'.toNat + 10)
  else if 'A' ≤ c ∧ c ≤ 'F' then some (c.toNat - 'A'.toNat + 10)
  else none

/-- The number that decimal digits write. -/
def value (digits : List Char) : Nat :=
  digits.foldl (fun n c => n * 10 + (c.toNat - '0'.toNat)) 0

/-- The number that digits write in a base of 16 at most. -/
def value? (base : Nat) (digits : List Char) : Option Nat :=
  digits.foldlM (fun n c => do
    let d ← hex? c
    if d < base then some (n * base + d) else none) 0

end Failsafe.Digits
