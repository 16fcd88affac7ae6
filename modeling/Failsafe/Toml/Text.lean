import Failsafe.Text.Numbered

/-!
# Texts in settings files

The smallest parts of a settings file: blanks, comments, line ends, and texts in quotes or apostrophes, on one
line or on several. A reader takes its part off the front and gives what is left; there is none where the file
is malformed.
-/

namespace Failsafe.Toml

def isGap (c : Char) : Bool := c = ' ' || c = '\t'

/-- A character that may stand in a comment or a text: a tab, or anything but a control character. -/
def isPrintable (c : Char) : Bool := c = '\t' || (0x20 ≤ c.toNat && c.toNat ≠ 0x7f)

def skipGap (cs : List Char) : List Char := cs.dropWhile isGap

def newline? : List Char → Option (List Char)
  | '\n' :: rest | '\r' :: '\n' :: rest => some rest
  | _ => none

def skipComment : List Char → List Char
  | '#' :: rest => rest.dropWhile isPrintable
  | cs => cs

/-- The end of a line, after blanks and a comment perhaps; the end of the file is one too. -/
def lineEnd? (cs : List Char) : Option (List Char) :=
  match skipComment (skipGap cs) with
  | [] => some []
  | cs => newline? cs

/-- Skips blanks, comments and line ends, `fuel` of them at most. -/
def skipLines : Nat → List Char → List Char
  | 0, cs => cs
  | fuel + 1, cs =>
    let cs := skipComment (skipGap cs)
    match newline? cs with
    | some rest => skipLines fuel rest
    | none => cs

/-- Skips all blanks, comments and line ends. -/
def skipSpace (cs : List Char) : List Char := skipLines cs.length cs

/-! ## Texts -/

/-- What follows a backslash. -/
def escape? : List Char → Option (Char × List Char)
  | '"' :: rest => some ('"', rest)
  | '\\' :: rest => some ('\\', rest)
  | 'b' :: rest => some ('\x08', rest)
  | 'f' :: rest => some ('\x0c', rest)
  | 'n' :: rest => some ('\n', rest)
  | 'r' :: rest => some ('\r', rest)
  | 't' :: rest => some ('\t', rest)
  | 'u' :: rest => Text.numbered? 4 rest
  | 'U' :: rest => Text.numbered? 8 rest
  | _ => none

/-- The rest of a quoted text on one line. -/
def quotedBody? : Nat → List Char → List Char → Option (String × List Char)
  | 0, _, _ => none
  | fuel + 1, seen, cs =>
    match cs with
    | '"' :: rest => some (String.ofList seen.reverse, rest)
    | '\\' :: rest => do
      let (c, rest) ← escape? rest
      quotedBody? fuel (c :: seen) rest
    | c :: rest => if isPrintable c then quotedBody? fuel (c :: seen) rest else none
    | [] => none

/-- The rest of a text between apostrophes, where nothing is escaped. -/
def literalBody? (cs : List Char) : Option (String × List Char) :=
  let body := cs.takeWhile fun c => c ≠ '\x27' && isPrintable c
  match cs.drop body.length with
  | '\x27' :: rest => some (String.ofList body, rest)
  | _ => none

/-- Skips blanks and line ends, `fuel` lines of them at most. -/
def skipBlankLines : Nat → List Char → List Char
  | 0, cs => cs
  | fuel + 1, cs =>
    let cs := skipGap cs
    match newline? cs with
    | some rest => skipBlankLines fuel rest
    | none => cs

/-- A backslash at the end of a line takes away the line end and all blanks and line ends that follow. -/
def continuation? (cs : List Char) : Option (List Char) :=
  (newline? (skipGap cs)).map fun rest => skipBlankLines (rest.length + 1) rest

/-- The rest of a text over several lines, which ends with three marks; up to two more in front of these
belong to the text. -/
def linesBody? (mark : Char) (escapes : Bool) : Nat → List Char → List Char → Option (String × List Char)
  | 0, _, _ => none
  | fuel + 1, seen, cs =>
    if cs.take 3 = [mark, mark, mark] then
      let extra := ((cs.drop 3).take 2).takeWhile (· = mark)
      some (String.ofList (extra ++ seen).reverse, cs.drop (3 + extra.length))
    else match newline? cs, cs with
      | some rest, _ => linesBody? mark escapes fuel ('\n' :: seen) rest
      | none, [] => none
      | none, c :: rest =>
        if c = '\\' && escapes then
          match continuation? rest with
          | some rest => linesBody? mark escapes fuel seen rest
          | none => do
            let (c, rest) ← escape? rest
            linesBody? mark escapes fuel (c :: seen) rest
        else if isPrintable c then linesBody? mark escapes fuel (c :: seen) rest
        else none

/-- A text over several lines; a line end right after the opening marks is no part of it. -/
def lines? (mark : Char) (escapes : Bool) (cs : List Char) : Option (String × List Char) :=
  linesBody? mark escapes (cs.length + 1) [] ((newline? cs).getD cs)

/-- A text on one line, as keys are written too. -/
def lineText? : List Char → Option (String × List Char)
  | '"' :: rest => quotedBody? (rest.length + 1) [] rest
  | '\x27' :: rest => literalBody? rest
  | _ => none

/-- A text. -/
def text? : List Char → Option (String × List Char)
  | '"' :: '"' :: '"' :: rest => lines? '"' true rest
  | '\x27' :: '\x27' :: '\x27' :: rest => lines? '\x27' false rest
  | cs => lineText? cs

end Failsafe.Toml
