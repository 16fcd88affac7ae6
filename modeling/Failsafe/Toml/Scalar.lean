import Failsafe.Date
import Failsafe.Decimal.Read
import Failsafe.Json
import Failsafe.Text.Expect

/-!
# Numbers, flags and times in settings files

A word outside quotes is a flag, a whole number, a double, or a date or time. Digits may be parted by single
underscores. Whole numbers have 64 bits and may be written in base 16, 8 or 2; a number too big for a double
is refused.

Dates and times have no type of their own. One is a table with a single key, `momentKey`, which holds its text;
and a table whose first key is that one stands for a date or time, however it was written. `Toml.resolve?` puts
the texts in the place of these tables.
-/

namespace Failsafe.Toml

/-- One digit or more with single underscores between them; the digits without the underscores, and the
rest. -/
def digits? (isDigit : Char → Bool) : List Char → Option (List Char × List Char)
  | c :: '_' :: rest =>
    if isDigit c then (digits? isDigit rest).map fun (more, rest) => (c :: more, rest) else none
  | c :: rest =>
    if isDigit c then
      match digits? isDigit rest with
      | some (more, rest) => some (c :: more, rest)
      | none => if rest.head?.any isDigit then none else some ([c], rest)
    else none
  | [] => none

/-- A number in a base other than ten. -/
def basedNumber? (base : Nat) (cs : List Char) : Option Json := do
  let (digits, rest) ← digits? (fun c => (Digits.hex? c).any (· < base)) cs
  let n ← Digits.value? base digits
  guard (rest.isEmpty && n < Nat.pow 2 63)
  some (.number (.int n))

/-- Digits of a whole number: no zero in front of others. -/
def wholeDigits? (cs : List Char) : Option (List Char × List Char) := do
  let (digits, rest) ← digits? Char.isDigit cs
  guard (digits.length = 1 ∨ digits.head? ≠ some '0')
  some (digits, rest)

/-- The digits after a point, if there is one. -/
def fractionDigits? : List Char → Option (List Char × List Char)
  | '.' :: rest => digits? Char.isDigit rest
  | cs => some ([], cs)

/-- The exponent, if there is one, which ends the number. -/
def exponentPart? : List Char → Option (Option Int)
  | [] => some none
  | mark :: rest => do
    guard (mark = 'e' ∨ mark = 'E')
    let (negative, cs) := Decimal.sign rest
    let (digits, rest) ← digits? Char.isDigit cs
    guard rest.isEmpty
    let n : Int := Digits.value digits
    some (some (if negative then -n else n))

/-- A decimal number: a whole one unless it has a fraction or an exponent. -/
def decimalNumber? (negative : Bool) (cs : List Char) : Option Json := do
  let (whole, rest) ← wholeDigits? cs
  let (fraction, rest) ← fractionDigits? rest
  let exponent ← exponentPart? rest
  let n := Digits.value (whole ++ fraction)
  if fraction.isEmpty && exponent.isNone then
    guard (n < Nat.pow 2 63 + (if negative then 1 else 0))
    some (.number (.int (if negative then -(n : Int) else n)))
  else
    let x := Decimal.nearest n (exponent.getD 0 - fraction.length)
    guard (negative || x.isFinite)
    some (.ofFloat (if negative then -x else x))

/-- A decimal number, or the name of an infinity or of no number, with a sign perhaps. -/
def signedNumber? (cs : List Char) : Option Json :=
  let (negative, cs) := Decimal.sign cs
  let signed (x : Float) : Json := .ofFloat (if negative then -x else x)
  match cs with
  | ['i', 'n', 'f'] => some (signed (1.0 / 0.0))
  | ['n', 'a', 'n'] => some (signed (0.0 / 0.0))
  | cs => decimalNumber? negative cs

/-! ## Dates and times -/

/-- A number of exactly `n` digits. -/
def fixed? (n : Nat) (cs : List Char) : Option (Nat × List Char) := do
  let digits := cs.take n
  guard (digits.length = n && digits.all Char.isDigit)
  some (Digits.value digits, cs.drop n)

/-- Skips a date. -/
def skipDate? (cs : List Char) : Option (List Char) := do
  let (year, cs) ← fixed? 4 cs
  let (month, cs) ← fixed? 2 (← Text.expect? '-' cs)
  let (day, cs) ← fixed? 2 (← Text.expect? '-' cs)
  guard (Date.of? year month day).isSome
  some cs

/-- Skips hours and minutes. -/
def skipMinutes? (cs : List Char) : Option (List Char) := do
  let (hour, cs) ← fixed? 2 cs
  let (minute, cs) ← fixed? 2 (← Text.expect? ':' cs)
  guard (hour < 24 ∧ minute < 60)
  some cs

/-- Skips a time of day. -/
def skipTime? (cs : List Char) : Option (List Char) := do
  let (second, cs) ← fixed? 2 (← Text.expect? ':' (← skipMinutes? cs))
  guard (second ≤ 60)
  match cs with
  | '.' :: rest =>
    guard (rest.head?.any Char.isDigit)
    some (rest.dropWhile Char.isDigit)
  | cs => some cs

/-- Skips an offset from universal time, if there is one. -/
def skipOffset? : List Char → Option (List Char)
  | 'Z' :: rest | 'z' :: rest => some rest
  | '+' :: rest | '-' :: rest => skipMinutes? rest
  | cs => some cs

/-- Whether a word is a date and nothing more. -/
def isDate (cs : List Char) : Bool := skipDate? cs = some []

/-- Whether a word is a date, a time of day, or both with an offset perhaps. -/
def isMoment (cs : List Char) : Bool :=
  isDate cs || skipTime? cs = some [] ||
    (do
      match ← skipDate? cs with
      | sep :: rest =>
        guard (sep = 'T' ∨ sep = 't' ∨ sep = ' ')
        skipOffset? (← skipTime? rest)
      | [] => none) = some []

/-- The key of a table that stands for a date or time. -/
def momentKey : String := "$__toml_private_datetime"

/-- A date or time, by its text. -/
def moment (s : String) : Json := .object [(momentKey, .text s)]

/-- Whether a table claims to stand for a date or time. -/
def claimsMoment (fields : Fields) : Bool := fields.head?.any fun (key, _) => key = momentKey

/-- The text of the date or time that a table stands for. -/
def momentText? : Fields → Option String
  | (_, .text s) :: _ => if isMoment s.toList then some s else none
  | _ => none

mutual

/-- A value with texts in the place of its dates and times; there is none where a table only claims to stand
for one. -/
def resolve? : Json → Option Json
  | .array items => (resolveItems? items).map .array
  | .object fields =>
    if claimsMoment fields then (momentText? fields).map .text
    else (resolveFields? fields).map .object
  | v => some v

def resolveItems? : List Json → Option (List Json)
  | [] => some []
  | v :: rest => do some ((← resolve? v) :: (← resolveItems? rest))

def resolveFields? : List (String × Json) → Option (List (String × Json))
  | [] => some []
  | (key, v) :: rest => do some ((key, ← resolve? v) :: (← resolveFields? rest))

end

/-- The value of a word outside quotes. -/
def word? (cs : List Char) : Option Json :=
  match cs with
  | ['t', 'r', 'u', 'e'] => some (.bool true)
  | ['f', 'a', 'l', 's', 'e'] => some (.bool false)
  | '0' :: 'x' :: rest => basedNumber? 16 rest
  | '0' :: 'o' :: rest => basedNumber? 8 rest
  | '0' :: 'b' :: rest => basedNumber? 2 rest
  | cs => if isMoment cs then some (moment (String.ofList cs)) else signedNumber? cs

/-- Whether a character ends a word outside quotes. -/
def endsWord (c : Char) : Bool :=
  c = ' ' || c = '\t' || c = '\n' || c = '\r' || c = '#' || c = ',' || c = ']' || c = '\x7d'

/-- A word outside quotes. A single blank may stand between the date and the time of a moment. -/
def scalar? (cs : List Char) : Option (Json × List Char) :=
  let word := cs.takeWhile fun c => !endsWord c
  let rest := cs.drop word.length
  let time := match rest with
    | ' ' :: more => more.takeWhile fun c => !endsWord c
    | _ => []
  if isDate word && !time.isEmpty then
    (word? (word ++ ' ' :: time)).map fun v => (v, rest.drop (time.length + 1))
  else (word? word).map fun v => (v, rest)

end Failsafe.Toml
