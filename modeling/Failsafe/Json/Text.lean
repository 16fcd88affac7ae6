import Failsafe.Decimal.Read
import Failsafe.Decimal.Text
import Failsafe.Json
import Failsafe.Text.Numbered

/-!
# JSON text

`Json.read?` reads one value and allows blanks around it; a whole number that needs more than 64 bits is read
as a double, and of two fields with one key the later wins. `Json.compact` and `Json.pretty` write a value:
on one line, or indented by two blanks with one field or item a line and the keys in order.

Reading recurses on a bound for the depth of the value and the number of its parts: the length of the text,
because each nested value and each item takes a character.
-/

namespace Failsafe.Json

/-! ## Reading -/

def isBlank (c : Char) : Bool := c = ' ' || c = '\n' || c = '\t' || c = '\r'

def skipBlanks (cs : List Char) : List Char := cs.dropWhile isBlank

/-- Four hexadecimal digits. -/
def hex4? : List Char → Option (Nat × List Char)
  | a :: b :: c :: d :: rest => do
    let n ← Digits.value? 16 [a, b, c, d]
    some (n, rest)
  | _ => none

/-- What follows a backslash in a string. -/
def escape? : List Char → Option (Char × List Char)
  | '"' :: rest => some ('"', rest)
  | '\\' :: rest => some ('\\', rest)
  | '/' :: rest => some ('/', rest)
  | 'b' :: rest => some ('\x08', rest)
  | 'f' :: rest => some ('\x0c', rest)
  | 'n' :: rest => some ('\n', rest)
  | 'r' :: rest => some ('\r', rest)
  | 't' :: rest => some ('\t', rest)
  | 'u' :: rest => do
    let (high, rest) ← hex4? rest
    if 0xD800 ≤ high ∧ high < 0xDC00 then
      match rest with
      | '\\' :: 'u' :: rest => do
        let (low, rest) ← hex4? rest
        if 0xDC00 ≤ low ∧ low < 0xE000 then
          some (Char.ofNat (0x10000 + (high - 0xD800) * 0x400 + (low - 0xDC00)), rest)
        else none
      | _ => none
    else
      let c ← Text.scalar? high
      some (c, rest)
  | _ => none

/-- The rest of a string after its opening quote. -/
def stringBody : Nat → List Char → List Char → Option (String × List Char)
  | 0, _, _ => none
  | _ + 1, _, [] => none
  | _ + 1, seen, '"' :: rest => some (String.ofList seen.reverse, rest)
  | fuel + 1, seen, '\\' :: rest => do
    let (c, rest) ← escape? rest
    stringBody fuel (c :: seen) rest
  | fuel + 1, seen, c :: rest => if c.toNat < 0x20 then none else stringBody fuel (c :: seen) rest

/-- The value of a number given by its sign, the digits before and after the point, and an exponent. -/
def makeNumber (negative : Bool) (whole fraction : List Char) (exponent : Option Int) : Number :=
  let magnitude := Digits.value (whole ++ fraction)
  if fraction.isEmpty ∧ exponent.isNone ∧ ¬(negative ∧ magnitude = 0)
      ∧ magnitude < (if negative then Nat.pow 2 63 + 1 else UInt64.size) then
    .int (if negative then -(magnitude : Int) else magnitude)
  else
    let shift : Int := exponent.getD 0 - fraction.length
    let x := Decimal.nearest magnitude shift
    .float (if negative then -x else x)

/-- A number: an optional minus, digits without a leading zero, and optionally a fraction and an exponent. -/
def number? (cs : List Char) : Option (Number × List Char) := do
  let (negative, cs) := match cs with
    | '-' :: rest => (true, rest)
    | _ => (false, cs)
  let whole := cs.takeWhile Char.isDigit
  let cs := cs.drop whole.length
  guard (whole ≠ [] ∧ (whole.head? ≠ some '0' ∨ whole.length = 1))
  let (fraction, cs) ← match cs with
    | '.' :: rest =>
      let digits := rest.takeWhile Char.isDigit
      if digits.isEmpty then none else some (digits, rest.drop digits.length)
    | _ => some ([], cs)
  let (exponent, cs) ← match cs with
    | 'e' :: rest | 'E' :: rest =>
      let (sign, rest) : Int × List Char := match rest with
        | '-' :: rest => (-1, rest)
        | '+' :: rest => (1, rest)
        | _ => (1, rest)
      let digits := rest.takeWhile Char.isDigit
      if digits.isEmpty then none
      else some (some (sign * (Digits.value digits : Int)), rest.drop digits.length)
    | _ => some (none, cs)
  some (makeNumber negative whole fraction exponent, cs)

/-- A value that starts here. -/
def value? : Nat → List Char → Option (Json × List Char)
  | 0, _ => none
  | fuel + 1, cs =>
    match skipBlanks cs with
    | 'n' :: 'u' :: 'l' :: 'l' :: rest => some (.null, rest)
    | 't' :: 'r' :: 'u' :: 'e' :: rest => some (.bool true, rest)
    | 'f' :: 'a' :: 'l' :: 's' :: 'e' :: rest => some (.bool false, rest)
    | '"' :: rest => (stringBody (rest.length + 1) [] rest).map fun (s, rest) => (.text s, rest)
    | '[' :: rest =>
      match skipBlanks rest with
      | ']' :: rest => some (.array [], rest)
      | rest => items? fuel [] rest
    | '\x7b' :: rest =>
      match skipBlanks rest with
      | '\x7d' :: rest => some (.object [], rest)
      | rest => fields? fuel [] rest
    | rest => (number? rest).map fun (n, rest) => (.number n, rest)
where
  /-- The items of an array up to its closing bracket. -/
  items? : Nat → List Json → List Char → Option (Json × List Char)
    | 0, _, _ => none
    | fuel + 1, seen, cs => do
      let (item, cs) ← value? fuel cs
      match skipBlanks cs with
      | ',' :: rest => items? fuel (item :: seen) rest
      | ']' :: rest => some (.array (item :: seen).reverse, rest)
      | _ => none
  /-- The fields of an object up to its closing brace. -/
  fields? : Nat → Fields → List Char → Option (Json × List Char)
    | 0, _, _ => none
    | fuel + 1, seen, cs =>
      match skipBlanks cs with
      | '"' :: rest => do
        let (key, cs) ← stringBody (rest.length + 1) [] rest
        match skipBlanks cs with
        | ':' :: rest => do
          let (item, cs) ← value? fuel rest
          match skipBlanks cs with
          | ',' :: rest => fields? fuel (Fields.set seen key item) rest
          | '\x7d' :: rest => some (.object (Fields.set seen key item), rest)
          | _ => none
        | _ => none
      | _ => none

/-- The value written in a text. -/
def read? (s : String) : Option Json :=
  let cs := s.toList
  match value? (2 * cs.length + 2) cs with
  | some (v, rest) => if (skipBlanks rest).isEmpty then some v else none
  | none => none

/-! ## Writing -/

/-- A character of a quoted string. -/
def quotedChar (c : Char) : String :=
  if c = '"' then "\\\""
  else if c = '\\' then "\\\\"
  else if c = '\n' then "\\n"
  else if c = '\r' then "\\r"
  else if c = '\t' then "\\t"
  else if c = '\x08' then "\\b"
  else if c = '\x0c' then "\\f"
  else if c.toNat < 0x20 then
    "\\u00" ++ String.ofList [Nat.digitChar (c.toNat / 16), Nat.digitChar (c.toNat % 16)]
  else c.toString

def quoted (s : String) : String :=
  "\"" ++ String.join (s.toList.map quotedChar) ++ "\""

/-- A number as documents write it; what is no finite number is written as null. -/
def Number.text : Number → String
  | .int n => toString n
  | .float x => if x.isFinite then Decimal.document.write x else "null"

mutual

/-- A value on one line. -/
def compact : Json → String
  | .null => "null"
  | .bool b => if b then "true" else "false"
  | .number n => n.text
  | .text s => quoted s
  | .array items => "[" ++ String.intercalate "," (compactItems items) ++ "]"
  | .object fields => "\x7b" ++ String.intercalate "," (compactFields fields) ++ "\x7d"

def compactItems : List Json → List String
  | [] => []
  | item :: rest => compact item :: compactItems rest

def compactFields : List (String × Json) → List String
  | [] => []
  | (key, value) :: rest => (quoted key ++ ":" ++ compact value) :: compactFields rest

end

/-- Fields in the order of their keys. -/
def sorted (fields : List (String × List String)) : List (String × List String) :=
  fields.mergeSort fun a b => a.1 ≤ b.1

/-- Indents lines and puts a comma after each entry but the last. -/
def entries : List (List String) → List String
  | [] => []
  | [entry] => entry.map ("  " ++ ·)
  | entry :: rest =>
    let lines := entry.map ("  " ++ ·)
    (lines.dropLast ++ lines.getLast?.toList.map (· ++ ",")) ++ entries rest

/-- Puts a text in front of the first line. -/
def onFirstLine (s : String) : List String → List String
  | [] => []
  | line :: rest => (s ++ line) :: rest

mutual

/-- A value over several lines. -/
def pretty : Json → List String
  | .array [] => ["[]"]
  | .array items => "[" :: (entries (prettyItems items) ++ ["]"])
  | .object [] => ["\x7b\x7d"]
  | .object fields => "\x7b" :: (entries ((sorted (prettyFields fields)).map (·.2)) ++ ["\x7d"])
  | .null => ["null"]
  | .bool b => [if b then "true" else "false"]
  | .number n => [n.text]
  | .text s => [quoted s]

def prettyItems : List Json → List (List String)
  | [] => []
  | item :: rest => pretty item :: prettyItems rest

/-- The lines of each field, beside its key. -/
def prettyFields : List (String × Json) → List (String × List String)
  | [] => []
  | (key, value) :: rest =>
    (key, onFirstLine (quoted key ++ ": ") (pretty value)) :: prettyFields rest

end

end Failsafe.Json
