import Failsafe.Json.Parts
import Failsafe.Toml.Scalar
import Failsafe.Toml.Table
import Failsafe.Toml.Text

/-!
# Settings files

`Toml.read?` reads a settings file: lines with a key and a value, under headers that name tables. There is no
answer for a malformed file, nor for one that gives a key twice. Arrays and tables in braces nest to a fixed
depth.

Reading a value recurses on a bound for the number of its parts, twice the length of the text.
-/

namespace Failsafe.Toml

/-- How deep values nest, and how many parts a dotted key has. -/
def depthLimit : Nat := 79

def isBareKeyChar (c : Char) : Bool := c.isAlphanum || c = '_' || c = '-'

/-- One part of a key. -/
def keyPart? (cs : List Char) : Option (String × List Char) :=
  let bare := cs.takeWhile isBareKeyChar
  if bare.isEmpty then lineText? cs else some (String.ofList bare, cs.drop bare.length)

/-- The parts of a dotted key, with blanks around them. -/
def keyParts? : Nat → List Char → Option (List String × List Char)
  | 0, _ => none
  | parts + 1, cs => do
    let (key, cs) ← keyPart? (skipGap cs)
    match skipGap cs with
    | '.' :: rest =>
      let (more, cs) ← keyParts? parts rest
      some (key :: more, cs)
    | cs => some ([key], cs)

/-- A dotted key: all parts but the last, and the last. -/
def key? (cs : List Char) : Option ((List String × String) × List Char) := do
  let (parts, cs) ← keyParts? depthLimit cs
  let last ← parts.getLast?
  some ((parts.dropLast, last), cs)

/-- A value that starts here. -/
def value? : Nat → Nat → List Char → Option (Json × List Char)
  | 0, _, _ => none
  | fuel + 1, depth, cs =>
    match cs, depth with
    | '"' :: _, _ | '\x27' :: _, _ => (text? cs).map fun (s, cs) => (.text s, cs)
    | '[' :: rest, depth + 1 => items? fuel depth [] (skipSpace rest)
    | '\x7b' :: rest, depth + 1 =>
      match skipGap rest with
      | '\x7d' :: rest => some (.object [], rest)
      | rest => pairs? fuel depth [] rest
    | cs, _ => scalar? cs
where
  /-- The items of an array; a comma may follow the last. -/
  items? : Nat → Nat → List Json → List Char → Option (Json × List Char)
    | 0, _, _, _ => none
    | fuel + 1, depth, seen, cs =>
      match cs with
      | ']' :: rest => some (.array seen.reverse, rest)
      | cs => do
        let (item, cs) ← value? fuel depth cs
        match skipSpace cs with
        | ',' :: rest => items? fuel depth (item :: seen) (skipSpace rest)
        | ']' :: rest => some (.array (item :: seen).reverse, rest)
        | _ => none
  /-- The pairs of a table in braces, on one line and without a comma after the last. -/
  pairs? : Nat → Nat → Entries → List Char → Option (Json × List Char)
    | 0, _, _, _ => none
    | fuel + 1, depth, seen, cs => do
      let ((path, key), cs) ← key? cs
      let cs ← Text.expect? '=' cs
      let (v, cs) ← value? fuel depth (skipGap cs)
      let seen ← seen.assign path key v
      match skipGap cs with
      | ',' :: rest => pairs? fuel depth seen rest
      | '\x7d' :: rest => some (.object (fieldsOf seen), rest)
      | _ => none

/-- What has been read of a file: its tables, and the header that the next pairs belong to. -/
structure Draft where
  entries : Entries
  header : List String

/-- A header, a pair, or neither. -/
def line? (draft : Draft) (cs : List Char) : Option (Draft × List Char) :=
  match skipGap cs with
  | '[' :: '[' :: rest => do
    let ((path, key), cs) ← key? rest
    let cs ← Text.expect? ']' (← Text.expect? ']' cs)
    let entries ← draft.entries.appendTable path key
    some (⟨entries, path ++ [key]⟩, cs)
  | '[' :: rest => do
    let ((path, key), cs) ← key? rest
    let cs ← Text.expect? ']' cs
    let entries ← draft.entries.openTable path key
    some (⟨entries, path ++ [key]⟩, cs)
  | cs =>
    if (lineEnd? cs).isSome then some (draft, cs)
    else do
      let ((path, key), cs) ← key? cs
      let cs ← Text.expect? '=' cs
      let (v, cs) ← value? (2 * cs.length + 2) depthLimit (skipGap cs)
      let entries ← draft.entries.assignIn draft.header path key v
      some ({ draft with entries }, cs)

/-- Reads lines up to the end of the file. -/
def lines : Nat → Draft → List Char → Option Draft
  | 0, _, _ => none
  | fuel + 1, draft, cs =>
    if cs.isEmpty then some draft
    else do
      let (draft, cs) ← line? draft cs
      let cs ← lineEnd? cs
      lines fuel draft cs

/-- Takes a byte order mark off the front. -/
def skipMark : List Char → List Char
  | '\ufeff' :: rest => rest
  | cs => cs

/-- The settings that a file gives. -/
def read? (s : String) : Option Fields := do
  let cs := skipMark s.toList
  let draft ← lines (cs.length + 1) ⟨[], []⟩ cs
  (← resolve? (.object (fieldsOf draft.entries))).object?

end Failsafe.Toml
