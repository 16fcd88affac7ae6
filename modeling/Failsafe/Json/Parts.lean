import Failsafe.Json
import Failsafe.Named

/-!
# Parts of a JSON value

Readers of one part of a record: a text, a flag, a number, a list, a value given by its name. A reader
accepts its own type only; a whole number is accepted where a double is wanted, and nothing else is converted.

A record (`record?`) is an object, of which unknown fields are ignored, or an array of the field values in
their order.
-/

namespace Failsafe

namespace Json

def text? : Json → Option String
  | .text s => some s
  | _ => none

def bool? : Json → Option Bool
  | .bool b => some b
  | _ => none

/-- A whole number that is not negative. -/
def nat? : Json → Option Nat
  | .number (.int n) => if 0 ≤ n then some n.toNat else none
  | _ => none

def uint32? (v : Json) : Option UInt32 := do
  let n ← v.nat?
  if n < UInt32.size then some n.toUInt32 else none

def uint64? (v : Json) : Option UInt64 := do
  let n ← v.nat?
  if n < UInt64.size then some n.toUInt64 else none

def float? : Json → Option Float
  | .number (.int n) => some (Float.ofInt n)
  | .number (.float x) => some x
  | _ => none

def object? : Json → Option Fields
  | .object fields => some fields
  | _ => none

def list? {α : Type} (part : Json → Option α) : Json → Option (List α)
  | .array items => items.mapM part
  | _ => none

/-- Null, or a value. -/
def option? {α : Type} (part : Json → Option α) : Json → Option (Option α)
  | .null => some none
  | v => (part v).map some

def isNull : Json → Bool
  | .null => true
  | _ => false

/-- Null or an object without fields. -/
def isVoid : Json → Bool
  | .null | .object [] => true
  | _ => false

/-- A value given by its name: the name as a text, or as the only key of an object over a `blank` value. -/
def named? {α : Type} [Named α] (blank : Json → Bool) : Json → Option α
  | .text s => Named.ofName? s
  | .object [(s, v)] => if blank v then Named.ofName? s else none
  | _ => none

/-- A map from names: every key is a name and every value readable. -/
def table? {κ α : Type} [Named κ] (part : Json → Option α) : Json → Option (κ → Option α)
  | .object fields =>
    if fields.all fun (key, v) => (Named.ofName? key : Option κ).isSome && (part v).isSome then
      some fun k => (Fields.get? fields (Named.name k)).bind part
    else none
  | _ => none

/-- The values of a map, each under the name of its key. -/
def ofTable {κ α : Type} [Named κ] (encode : α → Json) (table : κ → Option α) : Json :=
  .object (Named.all.filterMap fun k => (table k).map fun a => (Named.name k, encode a))

def ofName {α : Type} [Named α] (a : α) : Json := .text (Named.name a)

/-- The fields of a record by name. An array gives them in order, `least` of them or more. -/
def recordFrom? (least : Nat) (names : List String) : Json → Option Fields
  | .object fields => some fields
  | .array items =>
    if least ≤ items.length ∧ items.length ≤ names.length then some (names.zip items) else none
  | _ => none

/-- The fields of a record; an array gives all of them. -/
def record? (names : List String) : Json → Option Fields := recordFrom? names.length names

end Json

namespace Fields

/-- A field that has to be there. -/
def required? {α : Type} (fields : Fields) (key : String) (part : Json → Option α) : Option α :=
  (fields.get? key).bind part

/-- A field that may be absent or null. -/
def optional? {α : Type} (fields : Fields) (key : String) (part : Json → Option α) : Option (Option α) :=
  match fields.get? key with
  | none => some none
  | some v => v.option? part

/-- A field that takes a default where it is absent. -/
def defaulted? {α : Type} (fields : Fields) (key : String) (part : Json → Option α) (default : α) : Option α :=
  match fields.get? key with
  | none => some default
  | some v => part v

end Fields

end Failsafe
