import Failsafe.Decimal.Shortest

/-!
# Numbers as text

`Style.write` writes a double with its shortest digits. A `Style` says which digits are taken in a tie, how far
the positional form reaches and what a whole number ends with; outside that reach the number is written with an
exponent.
-/

namespace Failsafe.Decimal

/-- How the digits of a number are laid out. -/
structure Style where
  /-- Which of two equally near decimals is written. -/
  tie : Tie
  /-- Positional form is used up to this many places before the point; `none` is no bound. -/
  placesBefore : Option Nat
  /-- Positional form is used up to this many zeros after the point; `none` is no bound. -/
  zerosAfter : Option Nat
  /-- What follows the digits of a whole number. -/
  whole : String
  /-- The sign in front of a positive exponent. -/
  plus : String

/-- Plain text: never an exponent, and nothing after a whole number. -/
def plain : Style := ⟨.up, none, none, "", ""⟩

/-- Numbers in documents: an even last digit in a tie, positional below `10^16` and down to `10^-5`, `.0` after
a whole number, and a sign in front of every exponent. -/
def document : Style := ⟨.even, some 16, some 4, ".0", "+"⟩

/-- Whether a count stays within an optional bound. -/
def within (n : Nat) : Option Nat → Bool
  | none => true
  | some bound => n ≤ bound

def zeros (n : Nat) : String := String.ofList (List.replicate n '0')

/-- A positive decimal laid out in a style. `point` is where the decimal point falls, counted from the first
digit. -/
def Style.writeScaled (style : Style) (s : Scaled) : String :=
  let digits := Nat.toDigits 10 s.digits
  let n := digits.length
  let point : Int := n + s.exponent
  if point ≤ 0 ∧ within (-point).toNat style.zerosAfter then
    "0." ++ zeros (-point).toNat ++ String.ofList digits
  else if 0 < point ∧ within point.toNat style.placesBefore then
    let p := point.toNat
    if n ≤ p then String.ofList digits ++ zeros (p - n) ++ style.whole
    else String.ofList (digits.take p) ++ "." ++ String.ofList (digits.drop p)
  else
    let mantissa :=
      if n = 1 then String.ofList digits
      else String.ofList (digits.take 1) ++ "." ++ String.ofList (digits.drop 1)
    mantissa ++ "e" ++ (if 0 < point then style.plus else "") ++ toString (point - 1)

/-- The mark in front of a number. -/
def signMark : Float.Model.UnpackedFloat.Sign → String
  | .negative => "-"
  | .positive => ""

/-- A double in a style; the sign of a zero is kept. -/
def Style.write (style : Style) (x : Float) : String :=
  match x.toModel.unpack with
  | .notANumber => "NaN"
  | .infinity s => signMark s ++ "inf"
  | .zero s => signMark s ++ "0" ++ style.whole
  | .finite s m q _ => signMark s ++ style.writeScaled (shortest style.tie m q)

end Failsafe.Decimal
