import Failsafe.Unicode.Blank
import Failsafe.Unicode.Word

/-!
# What counts as a secret in a text

Three shapes are recognised at a position of a text:

* `wordLength`: a sensitive word, such as "password" or "private_key";
* `assignmentLength`: a sensitive word, a colon or an equals sign, and the value after it;
* `hexLength`: forty or more hexadecimal digits that stand as a word of their own.

Each gives the length of the match that starts at the position, and 0 when there is none. Letters are
compared without regard to case under simple case folding: besides the capital letter, the long s stands for
an s and the Kelvin sign for a k.
-/

namespace Failsafe.Redaction

/-! ## Words -/

/-- Whether a character is the given lower-case ASCII letter, whatever its case. -/
def sameLetter (letter c : Char) : Bool :=
  c.toLower = letter || (letter = 's' && c = 'ſ') || (letter = 'k' && c = '\u212a')

/-- A part of the spelling of a word. -/
inductive Piece where
  | letter (c : Char)
  /-- An underscore or a hyphen, or a blank where blanks are allowed. -/
  | gap (blank required : Bool)
deriving DecidableEq, Repr

/-- Whether a character can stand in a gap. -/
def fillsGap (blank : Bool) (c : Char) : Bool :=
  c = '_' || c = '-' || (blank && Unicode.isBlank c)

/-- The length of a spelling at the start of a text. A gap that may be left out is filled if it can be. -/
def spellingLength? : List Piece → List Char → Option Nat
  | [], _ => some 0
  | .letter _ :: _, [] => none
  | .letter l :: rest, c :: cs =>
    if sameLetter l c then (spellingLength? rest cs).map (· + 1) else none
  | .gap _ true :: _, [] => none
  | .gap blank true :: rest, c :: cs =>
    if fillsGap blank c then (spellingLength? rest cs).map (· + 1) else none
  | .gap _ false :: rest, [] => spellingLength? rest []
  | .gap blank false :: rest, c :: cs =>
    if fillsGap blank c then
      match spellingLength? rest cs with
      | some n => some (n + 1)
      | none => spellingLength? rest (c :: cs)
    else spellingLength? rest (c :: cs)

def letters (s : String) : List Piece := s.toList.map .letter

/-- The sensitive words, in the order they are tried. -/
def spellings : List (List Piece) :=
  [letters "private" ++ [.gap true false] ++ letters "key",
   letters "secret" ++ [.gap false false] ++ letters "key",
   letters "secret",
   letters "password",
   letters "passwd",
   letters "api" ++ [.gap false false] ++ letters "key",
   letters "access" ++ [.gap false false] ++ letters "token",
   letters "token",
   letters "mnemonic",
   letters "seed" ++ [.gap true true] ++ letters "phrase"]

/-- The length of the sensitive word at the start of a text. -/
def wordLength (cs : List Char) : Nat :=
  (spellings.findSome? (spellingLength? · cs)).getD 0

/-! ## Assignments -/

/-- A character of a value written without quotes. -/
def isBare (c : Char) : Bool := !(Unicode.isBlank c || c = ',' || c = ';' || c = '&')

/-- The length of a text up to its first quote, the quote included. -/
def closingLength? (quote : Char) (cs : List Char) : Option Nat :=
  let inside := cs.takeWhile (· ≠ quote)
  if inside.length < cs.length then some (inside.length + 1) else none

/-- The length of a value: in double quotes, in single quotes, or bare. A quote that is never closed begins
a bare value. -/
def valueLength (cs : List Char) : Nat :=
  let bare := (cs.takeWhile isBare).length
  match cs with
  | '"' :: rest => ((closingLength? '"' rest).map (· + 1)).getD bare
  | '\'' :: rest => ((closingLength? '\'' rest).map (· + 1)).getD bare
  | _ => bare

def blanksLength (cs : List Char) : Nat := (cs.takeWhile Unicode.isBlank).length

/-- The length of a separator and the value after it, blanks around the separator included. -/
def assignedLength? (cs : List Char) : Option Nat :=
  let before := blanksLength cs
  match cs.drop before with
  | c :: rest =>
    if c = ':' ∨ c = '=' then
      let after := blanksLength rest
      let value := valueLength (rest.drop after)
      if value = 0 then none else some (before + 1 + after + value)
    else none
  | [] => none

/-- The length of an assignment to a sensitive word at the start of a text. -/
def assignmentLength (cs : List Char) : Nat :=
  (spellings.findSome? fun spelling => do
    let word ← spellingLength? spelling cs
    let assigned ← assignedLength? (cs.drop word)
    some (word + assigned)).getD 0

/-! ## Long hexadecimal numbers -/

def isHex (c : Char) : Bool :=
  c.isDigit || ('a' ≤ c && c ≤ 'f') || ('A' ≤ c && c ≤ 'F')

/-- How many digits make a number long. -/
def longHex : Nat := 40

/-- Whether a word ends here: the text ends or goes on with no word character. -/
def endsWord : List Char → Bool
  | [] => true
  | c :: _ => !Unicode.isWord c

/-- The length of a long run of digits that ends a word. -/
def digitsLength (cs : List Char) : Nat :=
  let n := (cs.takeWhile isHex).length
  if longHex ≤ n ∧ endsWord (cs.drop n) then n else 0

/-- The length of a long hexadecimal number at the start of a text, after the character `before`. The mark
`0x` may stand in front of the digits. -/
def hexLength (before : Option Char) (cs : List Char) : Nat :=
  if before.any Unicode.isWord then 0
  else
    let marked := match cs with
      | '0' :: x :: rest => if x = 'x' ∨ x = 'X' then digitsLength rest else 0
      | _ => 0
    if marked ≠ 0 then marked + 2 else digitsLength cs

end Failsafe.Redaction
