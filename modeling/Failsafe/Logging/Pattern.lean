import Failsafe.Text.Numbered
import Failsafe.Unicode.Alphanumeric

/-!
# Patterns for field values

A log directive may give a pattern that the value of a field has to match. No line is ever held against one here;
what matters is whether it is one, and `LogPattern.isPattern` decides that.

Patterns are regular expressions: alternatives between bars, groups with a name or flags perhaps, classes in
brackets with ranges and set operations, escapes, and the repetition marks `*`, `+` and `?`. Word boundaries are
not supported, and counted repetition is refused, because the brace that would close it ends the field.

Every step takes a character at least, so the length of the pattern bounds their number.
-/

namespace Failsafe.LogPattern

/-! ## Single parts -/

/-- What a part of a pattern stands for. -/
inductive Part where
  | char (c : Char)
  /-- A set of characters. -/
  | set
  /-- A place in the text. -/
  | anchor

/-- The letters of the general categories, for a set of the characters that have one. -/
def isCategory (c : Char) : Bool := "clmnpsz".toList.contains c.toLower

/-- What follows a backslash. Letters and digits mean something or nothing; any other ASCII character stands for
itself, except the two that mark the ends of words. -/
def escape? : List Char → Option (Part × List Char)
  | 'x' :: rest => (Text.numbered? 2 rest).map fun (c, rest) => (.char c, rest)
  | 'u' :: rest => (Text.numbered? 4 rest).map fun (c, rest) => (.char c, rest)
  | 'U' :: rest => (Text.numbered? 8 rest).map fun (c, rest) => (.char c, rest)
  | 'p' :: c :: rest | 'P' :: c :: rest => if isCategory c then some (.set, rest) else none
  | c :: rest =>
    if "dDsSwW".toList.contains c then some (.set, rest)
    else if "Az".toList.contains c then some (.anchor, rest)
    else if "aftnrv".toList.contains c then some (.char c, rest)
    else if c.toNat < 0x80 ∧ !c.isAlphanum ∧ c ≠ '<' ∧ c ≠ '>' then some (.char c, rest)
    else none
  | [] => none

/-! ## Classes -/

/-- An item of a class. -/
def classItem? : List Char → Option (Part × List Char)
  | '\\' :: rest => escape? rest
  | c :: rest => some (.char c, rest)
  | [] => none

/-- Skips what may stand right behind the bracket that opens a class: a caret, and hyphens or a closing bracket
that stand for themselves. -/
def openClass (cs : List Char) : List Char :=
  let cs := match cs with
    | '^' :: rest => rest
    | cs => cs
  match cs with
  | ']' :: rest => rest
  | cs => cs.dropWhile (· = '-')

/-- The sets that have a name between colons. -/
def namedSets : List String :=
  ["alnum", "alpha", "ascii", "blank", "cntrl", "digit", "graph", "lower", "print", "punct", "space", "upper",
   "word", "xdigit"]

/-- Skips a named set after its opening bracket. -/
def namedSet? : List Char → Option (List Char)
  | ':' :: rest =>
    let rest := match rest with
      | '^' :: rest => rest
      | rest => rest
    let name := rest.takeWhile (· ≠ ':')
    match rest.drop name.length with
    | ':' :: ']' :: rest => if namedSets.contains (String.ofList name) then some rest else none
    | _ => none
  | _ => none

/-- Skips a range or a single item of a class. A range goes from one character to one that is not before it. -/
def classRange? (cs : List Char) : Option (List Char) := do
  let (first, rest) ← classItem? cs
  let isRange := match rest with
    | '-' :: next => next.head? ≠ some ']' && next.head? ≠ some '-'
    | _ => false
  if isRange then
    match first, ← classItem? (rest.drop 1) with
    | .char low, (.char high, rest) => if low ≤ high then some rest else none
    | _, _ => none
  else
    match first with
    | .anchor => none
    | _ => some rest

/-- Skips the rest of a class, of `depth` classes around it, and of those inside it. -/
def classRest? : Nat → Nat → List Char → Option (List Char)
  | 0, _, _ => none
  | fuel + 1, depth, cs =>
    match cs, depth with
    | ']' :: rest, 0 => some rest
    | ']' :: rest, depth + 1 => classRest? fuel depth rest
    | '[' :: rest, depth =>
      match namedSet? rest with
      | some rest => classRest? fuel depth rest
      | none => classRest? fuel (depth + 1) (openClass rest)
    | '&' :: '&' :: rest, depth | '-' :: '-' :: rest, depth | '~' :: '~' :: rest, depth =>
      classRest? fuel depth rest
    | cs, depth => do classRest? fuel depth (← classRange? cs)

/-! ## Groups -/

/-- A character of a group's name. -/
def isNameChar (c : Char) : Bool :=
  c = '_' || c = '.' || c = '[' || c = ']' || Unicode.isAlphanumeric c

/-- A name and the bracket behind it. -/
def groupName? (cs : List Char) : Option (String × List Char) :=
  let name := cs.takeWhile (· ≠ '>')
  let begins := name.head?.any fun c => c = '_' || (Unicode.isAlphanumeric c && !c.isDigit)
  match cs.drop name.length with
  | '>' :: rest => if begins && name.all isNameChar then some (String.ofList name, rest) else none
  | _ => none

/-- Whether flags are well formed: none of them twice, and a single minus that is not the last. -/
def areFlags (flags : List Char) : Bool :=
  let letters := flags.filter (· ≠ '-')
  letters.all ("imsUuRx".toList.contains ·) && letters.eraseDups.length = letters.length
    && flags.count '-' ≤ 1 && flags.getLast? ≠ some '-'

/-- How a group opens. -/
inductive Opening where
  | plain
  | named (name : String)
  /-- Flags for what follows, which are no group at all. -/
  | flags

/-- What stands behind an opening parenthesis. -/
def opening? : List Char → Option (Opening × List Char)
  | '?' :: 'P' :: '<' :: rest | '?' :: '<' :: rest =>
    (groupName? rest).map fun (name, rest) => (.named name, rest)
  | '?' :: rest =>
    let flags := rest.takeWhile fun c => c ≠ ':' && c ≠ ')'
    if !areFlags flags then none
    else match rest.drop flags.length with
      | ':' :: rest => some (.plain, rest)
      | ')' :: rest => if flags.isEmpty then none else some (.flags, rest)
      | _ => none
  | cs => some (.plain, cs)

/-! ## Patterns -/

/-- Reads on in `depth` groups. `names` are the names of groups so far, and `repeatable` tells whether a
repetition mark may stand here. -/
def readOn : Nat → Nat → List String → Bool → List Char → Bool
  | 0, _, _, _, _ => false
  | fuel + 1, depth, names, repeatable, cs =>
    match cs with
    | [] => depth = 0
    | '(' :: rest =>
      match opening? rest with
      | some (.plain, rest) => readOn fuel (depth + 1) names false rest
      | some (.named name, rest) =>
        !names.contains name && readOn fuel (depth + 1) (name :: names) false rest
      | some (.flags, rest) => readOn fuel depth names false rest
      | none => false
    | ')' :: rest => 0 < depth && readOn fuel (depth - 1) names true rest
    | '|' :: rest => readOn fuel depth names false rest
    | '*' :: rest | '+' :: rest | '?' :: rest => repeatable && readOn fuel depth names true rest
    | '\x7b' :: _ => false
    | '[' :: rest => (classRest? (rest.length + 1) 0 (openClass rest)).any (readOn fuel depth names true)
    | '\\' :: rest => (escape? rest).any fun (_, rest) => readOn fuel depth names true rest
    | _ :: rest => readOn fuel depth names true rest

/-- Whether a text is a pattern. -/
def isPattern (cs : List Char) : Bool := readOn (cs.length + 1) 0 [] false cs

end Failsafe.LogPattern
