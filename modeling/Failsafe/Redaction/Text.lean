import Failsafe.Redaction.Pattern

/-!
# Redacting texts

`sanitize` replaces long hexadecimal numbers, then assignments to sensitive words, then the sensitive words
that are left. Each pass goes through the text from the left, replaces the match it finds and goes on behind
it.
-/

namespace Failsafe.Redaction

/-- What stands for a secret. -/
def marker : String := "[REDACTED]"

/-- What stands for a long hexadecimal number. -/
def hexMarker : String := "[REDACTED_HEX]"

/-- Replaces every match by a mark. `before` is the character in front of the text and `skip` the number of
characters that still belong to a match already replaced. -/
def replaceFrom (matchLength : Option Char → List Char → Nat) (mark : List Char) :
    Option Char → Nat → List Char → List Char
  | _, _, [] => []
  | _, skip + 1, c :: rest => replaceFrom matchLength mark (some c) skip rest
  | before, 0, c :: rest =>
    match matchLength before (c :: rest) with
    | 0 => c :: replaceFrom matchLength mark (some c) 0 rest
    | n + 1 => mark ++ replaceFrom matchLength mark (some c) n rest

/-- Replaces every match by a mark. -/
def replaceAll (matchLength : Option Char → List Char → Nat) (mark : String) (cs : List Char) :
    List Char :=
  replaceFrom matchLength mark.toList none 0 cs

/-- Redacts a text given as characters. -/
def sanitizeChars (cs : List Char) : List Char :=
  let cs := replaceAll hexLength hexMarker cs
  let cs := replaceAll (fun _ => assignmentLength) marker cs
  replaceAll (fun _ => wordLength) marker cs

/-- Redacts a text. -/
def sanitize (s : String) : String := String.ofList (sanitizeChars s.toList)

/-- Whether a sensitive word stands somewhere in the text. -/
def holdsWord : List Char → Bool
  | [] => false
  | c :: rest => wordLength (c :: rest) ≠ 0 || holdsWord rest

/-- Whether a key names something secret. -/
def isSensitive (key : String) : Bool := holdsWord key.toList

end Failsafe.Redaction
