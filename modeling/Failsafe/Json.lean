/-!
# JSON values

A JSON value; its numbers are whole numbers or doubles. An object is a list of fields, and `Fields.set` keeps
every key at most once: a key that is already there keeps its place and takes the new value.
-/

namespace Failsafe

/-- A JSON number: a whole number or a double. -/
inductive Json.Number where
  | int (value : Int)
  | float (value : Float)
deriving DecidableEq

inductive Json where
  | null
  | bool (value : Bool)
  | number (value : Json.Number)
  | text (value : String)
  | array (items : List Json)
  | object (fields : List (String × Json))
deriving Inhabited, BEq

/-- Named values: the parameters of a call, or the fields of an object. -/
abbrev Fields := List (String × Json)

namespace Fields

/-- The value under a key. -/
def get? (fields : Fields) (key : String) : Option Json :=
  fields.findSome? fun (name, value) => if name = key then some value else none

def contains (fields : Fields) (key : String) : Bool :=
  fields.any fun (name, _) => name = key

/-- Puts a value under a key: in the place of the key if it is there, else at the end. -/
def set : Fields → String → Json → Fields
  | [], key, value => [(key, value)]
  | (name, old) :: rest, key, value =>
    if name = key then (name, value) :: rest else (name, old) :: set rest key value

/-- Sets every field of `more`, in order. -/
def merge (fields more : Fields) : Fields :=
  more.foldl (fun acc (key, value) => acc.set key value) fields

end Fields

namespace Json

def ofNat (n : Nat) : Json := .number (.int n)

def ofFloat (x : Float) : Json := .number (.float x)

def ofOption {α : Type} (encode : α → Json) : Option α → Json
  | none => .null
  | some a => encode a

def ofList {α : Type} (encode : α → Json) (items : List α) : Json := .array (items.map encode)

/-- The field of an object; a value that is no object has none. -/
def field? (value : Json) (key : String) : Option Json :=
  match value with
  | .object fields => Fields.get? fields key
  | _ => none

end Json

end Failsafe
