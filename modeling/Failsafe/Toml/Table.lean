import Failsafe.Json

/-!
# Tables under construction

The tables of a settings file as far as it has been read. Each table remembers how it came to be: by a header of
its own, by a longer header that passes through it, or by a dotted key. `assign` puts a value under a dotted key,
`openTable` opens a table by its header and `appendTable` adds one to an array of tables. They refuse a
key that is taken, a second header for one table, and dotted keys into a table that has a header.
-/

namespace Failsafe.Toml

/-- How a table came to be. -/
inductive Opened where
  | byHeader
  | inPassing
  | byKey
deriving DecidableEq

/-- What stands under a key. -/
inductive Node where
  | value (v : Json)
  | table (opened : Opened) (entries : List (String × Node))
  | tables (items : List (List (String × Node)))

abbrev Entries := List (String × Node)

namespace Entries

/-- Changes what stands under a key, or puts something there. -/
def update (key : String) (change : Option Node → Option Node) : Entries → Option Entries
  | [] => (change none).map fun node => [(key, node)]
  | (k, node) :: rest =>
    if k = key then (change (some node)).map fun node => (k, node) :: rest
    else (update key change rest).map ((k, node) :: ·)

/-- Changes the table at the end of a path. In an array of tables the path leads through the last one; tables
that are missing on the way are created. Dotted keys do not lead through a table that has a header. -/
def within (dotted : Bool) (change : Opened → Entries → Option Entries) :
    List String → Opened → Entries → Option Entries
  | [], opened, entries => change opened entries
  | key :: path, _, entries =>
    entries.update key fun
      | none =>
        let opened := if dotted then .byKey else .inPassing
        (within dotted change path opened []).map (.table opened)
      | some (.value _) => none
      | some (.table opened inner) =>
        if dotted ∧ opened = .byHeader then none
        else (within dotted change path opened inner).map (.table opened)
      | some (.tables items) => do
        let last ← items.getLast?
        let last ← within dotted change path .byHeader last
        some (.tables (items.dropLast ++ [last]))

/-- Puts a value under a key that is free. -/
def insert (key : String) (v : Json) (entries : Entries) : Option Entries :=
  entries.update key fun
    | none => some (.value v)
    | some _ => none

/-- Puts a value under the dotted key `path.key`. -/
def assign (path : List String) (key : String) (v : Json) (entries : Entries) : Option Entries :=
  within true (fun opened inner => if path.isEmpty ∨ opened = .byKey then inner.insert key v else none)
    path .byHeader entries

/-- Puts a value under the dotted key `path.key` in the table of a header. -/
def assignIn (header path : List String) (key : String) (v : Json) (entries : Entries) : Option Entries :=
  within false (fun _ inner => inner.assign path key v) header .byHeader entries

/-- Opens the table of the header `path.key`. -/
def openTable (path : List String) (key : String) (entries : Entries) : Option Entries :=
  within false (fun _ inner => inner.update key fun
    | none => some (.table .byHeader [])
    | some (.table .inPassing inner) => some (.table .byHeader inner)
    | some _ => none) path .byHeader entries

/-- Adds a table to the array of tables of the header `path.key`. -/
def appendTable (path : List String) (key : String) (entries : Entries) : Option Entries :=
  within false (fun _ inner => inner.update key fun
    | none => some (.tables [[]])
    | some (.tables items) => some (.tables (items ++ [[]]))
    | some _ => none) path .byHeader entries

end Entries

mutual

/-- A finished table or value. -/
def Node.toJson : Node → Json
  | .value v => v
  | .table _ entries => .object (fieldsOf entries)
  | .tables items => .array (objectsOf items)

def fieldsOf : List (String × Node) → List (String × Json)
  | [] => []
  | (key, node) :: rest => (key, node.toJson) :: fieldsOf rest

def objectsOf : List (List (String × Node)) → List Json
  | [] => []
  | entries :: rest => .object (fieldsOf entries) :: objectsOf rest

end

end Failsafe.Toml
