import Failsafe.Digits
import Failsafe.Text.Expect
import Failsafe.Timestamp
import Failsafe.Unicode.Blank

/-!
# Timestamps as text

`Timestamp.text` writes `YYYY-MM-DDThh:mm:ssZ`, with three, six or nine digits of a fraction if there is one.
A year that has not four digits is written with its sign.

`Timestamp.read?` reads that and more: one digit where two are usual, blanks around the separators, a blank or
a small `t` between date and time, fractions of any length (digits beyond the ninth are dropped), and an offset
from universal time instead of the `Z`.
-/

namespace Failsafe.Timestamp

/-! ## Writing -/

def yearText (year : Int) : List Char :=
  if 0 ≤ year ∧ year ≤ 9999 then Digits.padded 10 4 year.toNat
  else (if year < 0 then '-' else '+') :: Digits.padded 10 4 year.natAbs

def dateText (d : Date) : List Char :=
  yearText d.year ++ '-' :: Digits.padded 10 2 d.month ++ '-' :: Digits.padded 10 2 d.day

/-- The fraction of a second in as few groups of three digits as hold it. -/
def fractionText (nanos : Nat) : List Char :=
  if nanos = 0 then []
  else if nanos % 1000000 = 0 then '.' :: Digits.padded 10 3 (nanos / 1000000)
  else if nanos % 1000 = 0 then '.' :: Digits.padded 10 6 (nanos / 1000)
  else '.' :: Digits.padded 10 9 nanos

def text (t : Timestamp) : String :=
  String.ofList (dateText t.date ++ 'T' :: Digits.padded 10 2 (t.minute / 60) ++ ':' :: Digits.padded 10 2 (t.minute % 60)
    ++ ':' :: Digits.padded 10 2 t.second ++ fractionText t.nanos ++ ['Z'])

/-! ## Reading -/

def skipBlanks (cs : List Char) : List Char := cs.dropWhile Unicode.isBlank

/-- One digit or more, `width` at most. -/
def digits? (width : Nat) (cs : List Char) : Option (Nat × List Char) :=
  let digits := (cs.take width).takeWhile Char.isDigit
  if digits.isEmpty then none else some (Digits.value digits, cs.drop digits.length)

/-- Four digits at most, or a sign and any number of digits. -/
def year? : List Char → Option (Int × List Char)
  | '-' :: rest => (digits? rest.length rest).map fun (n, rest) => (-(n : Int), rest)
  | '+' :: rest => (digits? rest.length rest).map fun (n, rest) => ((n : Int), rest)
  | cs => (digits? 4 cs).map fun (n, rest) => ((n : Int), rest)

def date? (cs : List Char) : Option (Date × List Char) := do
  let (year, cs) ← year? (skipBlanks cs)
  let cs ← Text.expect? '-' (skipBlanks cs)
  let (month, cs) ← digits? 2 (skipBlanks cs)
  let cs ← Text.expect? '-' (skipBlanks cs)
  let (day, cs) ← digits? 2 (skipBlanks cs)
  let date ← Date.of? year month day
  some (date, cs)

/-- A fraction of a second in nanoseconds; without a point there is none. -/
def fraction? : List Char → Option (Nat × List Char)
  | '.' :: rest => do
    let digits := rest.takeWhile Char.isDigit
    guard (digits ≠ [])
    let kept := digits.take 9
    some (Digits.value kept * Nat.pow 10 (9 - kept.length), rest.drop digits.length)
  | cs => some (0, cs)

/-- Hour, minute, second and nanoseconds. -/
def clock? (cs : List Char) : Option ((Nat × Nat × Nat × Nat) × List Char) := do
  let (hour, cs) ← digits? 2 (skipBlanks cs)
  let cs ← Text.expect? ':' (skipBlanks cs)
  let (minute, cs) ← digits? 2 (skipBlanks cs)
  let cs ← Text.expect? ':' (skipBlanks cs)
  let (second, cs) ← digits? 2 (skipBlanks cs)
  let (nanos, cs) ← fraction? cs
  guard (hour < 24 ∧ minute < 60)
  some ((hour, minute, second, nanos), cs)

/-- Exactly two digits. -/
def twoDigits? : List Char → Option (Nat × List Char)
  | a :: b :: rest => if a.isDigit && b.isDigit then some (Digits.value [a, b], rest) else none
  | _ => none

/-- Hours and minutes of an offset, with colons or blanks between them. -/
def offset? (cs : List Char) : Option (Nat × List Char) := do
  let (hours, cs) ← twoDigits? cs
  let (minutes, cs) ← twoDigits? (cs.dropWhile fun c => c = ':' || Unicode.isBlank c)
  guard (hours < 24 ∧ minutes < 60)
  some (hours * 60 + minutes, cs)

/-- How many minutes a zone is east of universal time. -/
def zone? : List Char → Option (Int × List Char)
  | 'Z' :: rest | 'z' :: rest => some (0, rest)
  | '+' :: rest => (offset? rest).map fun (n, rest) => ((n : Int), rest)
  | '-' :: rest | '\u2212' :: rest => (offset? rest).map fun (n, rest) => (-(n : Int), rest)
  | u :: t :: c :: rest =>
    if String.ofList ([u, t, c].map Char.toUpper) = "UTC" then some (0, rest) else none
  | _ => none

/-- The moment that a text gives. -/
def read? (s : String) : Option Timestamp := do
  let (date, cs) ← date? s.toList
  let cs ← match cs with
    | 't' :: rest | 'T' :: rest | ' ' :: rest => some rest
    | _ => none
  let ((hour, minute, second, nanos), cs) ← clock? cs
  let (east, cs) ← zone? (skipBlanks cs)
  guard (skipBlanks cs = [])
  ofLocal? date (hour * 60 + minute) second nanos east

end Failsafe.Timestamp
