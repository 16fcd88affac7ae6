import Failsafe.Digits

/-!
# Reading numbers

`Decimal.nearest` is the double nearest to `n · 10^e`. `Decimal.read?` reads a number as text gives it:
digits with or without a point, perhaps a sign and an exponent, or the name of an infinity or of no number.
-/

namespace Failsafe.Decimal

/-- Beyond this power of ten every double is infinite, and below its inverse every double is zero. -/
def exponentBound : Int := 400

/-- The double nearest to `n · 10^e`. -/
def nearest (n : Nat) (e : Int) : Float :=
  let magnitude : Int := (Nat.toDigits 10 n).length + e
  if n = 0 ∨ magnitude < -exponentBound then 0.0
  else if exponentBound < magnitude then 1.0 / 0.0
  else Float.ofScientific n (e < 0) e.natAbs

/-- The sign in front of a number: whether it is a minus, and what follows. -/
def sign : List Char → Bool × List Char
  | '-' :: rest => (true, rest)
  | '+' :: rest => (false, rest)
  | cs => (false, cs)

/-- An exponent, which is zero where there is nothing left. -/
def exponent? : List Char → Option Int
  | [] => some 0
  | mark :: rest =>
    let (negative, digits) := sign rest
    if (mark = 'e' || mark = 'E') && !digits.isEmpty && digits.all Char.isDigit then
      some (if negative then -(Digits.value digits : Int) else Digits.value digits)
    else none

/-- A number without a sign: digits, of which some may follow a point, and perhaps an exponent. -/
def magnitude? (cs : List Char) : Option Float := do
  let whole := cs.takeWhile Char.isDigit
  let rest := cs.drop whole.length
  let (fraction, rest) := match rest with
    | '.' :: rest => (rest.takeWhile Char.isDigit, rest.dropWhile Char.isDigit)
    | rest => ([], rest)
  guard (!whole.isEmpty || !fraction.isEmpty)
  let e ← exponent? rest
  some (nearest (Digits.value (whole ++ fraction)) (e - fraction.length))

/-- The double that a text gives. -/
def read? (s : String) : Option Float := do
  let (negative, cs) := sign s.toList
  let word := String.ofList (cs.map Char.toLower)
  let x ←
    if word = "inf" ∨ word = "infinity" then some (1.0 / 0.0)
    else if word = "nan" then some (0.0 / 0.0)
    else magnitude? cs
  some (if negative then -x else x)

end Failsafe.Decimal
