import Failsafe.Event
import Failsafe.Logging.Pattern
import Failsafe.Settings.Conversion
import Failsafe.Text.Cut
import Failsafe.Unicode.Blank

/-!
# Log directives

A directive is a level up to which log lines are shown, for all of them or for some:

* `level` or `target`: a level for all lines, or everything of a target;
* `target=level`: a level for the lines whose target begins with a name;
* `target[span]=level`: a level for what happens inside a span;
* `target[{field}]=level`: a level for the lines that have a field.

The target and the level may be left out before and behind the brackets. A field may be held against a pattern,
`field=pattern`, and a span may come with a field, `span{field}`; both look at what is recorded in spans, and
no line by itself meets them.

Blanks at both ends play no part in where the marks of a directive stand. But the parts between the marks are cut
out of the text with its blanks, at the places counted without those in front. So blanks in front shift what is
cut, and where the cut falls inside a character the directive is torn.
-/

namespace Failsafe

/-- The highest level that is shown; `none` shows nothing. -/
abbrev LogCeiling := Option LogLevel

namespace LogLevel

/-- Levels from the most urgent to the least. -/
def rank (l : LogLevel) : Nat := all.idxOf l

end LogLevel

namespace LogCeiling

def shows (ceiling : LogCeiling) (level : LogLevel) : Bool :=
  match ceiling with
  | none => false
  | some top => level.rank ≤ top.rank

/-- Everything is shown. -/
def everything : LogCeiling := some .trace

/-- The ceiling of a number from 0, nothing, to 5, everything. -/
def ofNumber? : Nat → Option LogCeiling
  | 0 => some none
  | n + 1 => LogLevel.all[n]?.map some

/-- The ceiling of a name, in any case. -/
def ofName? (s : String) : Option LogCeiling :=
  let name := String.ofList (s.toList.map Char.toUpper)
  if name = "OFF" then some none else (Named.ofName? name : Option LogLevel).map some

/-- The ceiling of a name or a number. -/
def read? (s : String) : Option LogCeiling :=
  match readUInt64? s with
  | some n => ofNumber? n.toNat
  | none => ofName? s

end LogCeiling

/-- What tells log lines apart beside their level: the target, and the names of the fields. -/
structure LogSource where
  target : String
  fields : List String

/-- Up to which level lines are shown that a target and a field single out. -/
structure LogDirective where
  /-- What the target of a line begins with. -/
  target : Option String
  /-- A field that a line has. -/
  field : Option String
  /-- Whether it looks at what is recorded in spans. -/
  inSpans : Bool
  ceiling : LogCeiling

namespace LogDirective

/-- Why a text is no directive. -/
inductive Fault where
  | malformed
  /-- A part would begin or end inside a character. -/
  | torn
deriving DecidableEq, Repr

/-- The characters that a target begins with. -/
def beginsTarget (c : Char) : Bool := c = '-' || c = ':' || c = '_' || Unicode.isAlphanumeric c

/-- A text without the blanks at its ends. -/
def trimmed (text : List Char) : List Char :=
  ((text.dropWhile Unicode.isBlank).reverse.dropWhile Unicode.isBlank).reverse

/-- The part of a text between two places. -/
def part (text : List Char) (start stop : Nat) : Except Fault (List Char) :=
  match Text.cut? start stop text with
  | some cs => .ok cs
  | none => .error .torn

/-- The level that begins at a place; everything, if there is none. -/
def ceilingAt (text : List Char) (start : Nat) : Except Fault LogCeiling := do
  let level ← part text start (Text.byteLength text)
  if level.isEmpty then .ok .everything
  else match LogCeiling.read? (String.ofList level) with
    | some ceiling => .ok ceiling
    | none => .error .malformed

/-- The level behind brackets that end at a place. -/
def ceilingBehind (text : List Char) (stop : Nat) : List Char → Except Fault LogCeiling
  | [] => .ok .everything
  | '=' :: _ => ceilingAt text (stop + 1)
  | _ => .error .malformed

/-! ## Brackets -/

/-- A field in braces: its name, and whether its value is held against a pattern. -/
structure FieldTest where
  name : String
  hasValue : Bool

/-- Reads a field. A value is a number or a pattern, and ends where a second equals sign stands. -/
def fieldTest (cs : List Char) : Except Fault FieldTest :=
  let name := cs.takeWhile (· ≠ '=')
  if cs.isEmpty then .error .malformed
  else match cs.drop name.length with
    | [] => .ok ⟨String.ofList name, false⟩
    | _ :: rest =>
      let value := rest.takeWhile (· ≠ '=')
      if (Decimal.read? (String.ofList value)).isSome || LogPattern.isPattern value then
        .ok ⟨String.ofList name, true⟩
      else .error .malformed

/-- What stands in brackets, where they end, and what follows. -/
structure Brackets where
  span : Bool
  field : Option FieldTest
  stop : Nat
  rest : List Char

/-- Reads brackets behind the opening one, which ends at a place. -/
def brackets (text : List Char) (start : Nat) (cs : List Char) : Except Fault Brackets := do
  let name := cs.takeWhile fun c => c ≠ ']' && c ≠ '\x7b'
  let stop := start + Text.byteLength name
  match cs.drop name.length with
  | [] => .error .malformed
  | mark :: rest =>
    let span ← part text start stop
    if mark = ']' then .ok ⟨true, none, stop + 1, rest⟩
    else
      let body := rest.takeWhile (· ≠ '\x7d')
      let last := stop + 1 + Text.byteLength body
      match rest.drop body.length with
      | [] => .error .malformed
      | _ :: rest =>
        let field ← fieldTest (← part text (stop + 1) last)
        match rest with
        | ']' :: rest => .ok ⟨!span.isEmpty, some field, last + 2, rest⟩
        | _ => .error .malformed

/-- The directive for a target, with brackets that open at a place. -/
def withBrackets (text : List Char) (target : Option String) (start : Nat) (cs : List Char) :
    Except Fault LogDirective := do
  let b ← brackets text start cs
  let ceiling ← ceilingBehind text b.stop b.rest
  .ok { target, field := b.field.map (·.name), inSpans := b.span || b.field.any (·.hasValue), ceiling }

/-- Reads a directive. -/
def read (text : List Char) : Except Fault LogDirective :=
  match trimmed text with
  | [] => .error .malformed
  | '[' :: rest => withBrackets text none 1 rest
  | c :: cs =>
    if !beginsTarget c then .error .malformed
    else
      let name := (c :: cs).takeWhile fun c => c ≠ '=' && c ≠ '['
      let stop := Text.byteLength name
      match (c :: cs).drop name.length with
      | [] =>
        let whole := String.ofList text
        match LogCeiling.read? whole with
        | some ceiling => .ok ⟨none, none, false, ceiling⟩
        | none => .ok ⟨some whole, none, false, .everything⟩
      | mark :: rest => do
        let target := String.ofList (← part text 0 stop)
        if mark = '=' then
          let ceiling ← ceilingAt text (stop + 1)
          .ok ⟨some target, none, false, ceiling⟩
        else withBrackets text (some target) (stop + 1) rest

/-! ## Choosing among directives -/

def applies (d : LogDirective) (source : LogSource) : Bool :=
  !d.inSpans && d.target.all (source.target.startsWith ·) && d.field.all (source.fields.contains ·)

/-- How narrow the target of a directive is. -/
def width (d : LogDirective) : Nat := d.target.elim 0 (·.length + 1)

/-- Whether a directive gives way to a later one that applies as well: the longer target wins, then a field, and
of two fields the one further on in the alphabet. -/
def givesWay (d later : LogDirective) : Bool :=
  if d.width = later.width then
    match d.field, later.field with
    | none, _ => true
    | some _, none => false
    | some a, some b => a ≤ b
  else d.width < later.width

end LogDirective

end Failsafe
