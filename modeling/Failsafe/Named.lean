/-!
# Names

Types with finitely many values that are written by name. `ofName?` finds the value of a name, and
`ofName?_name` says that no two values share one.
-/

namespace Failsafe

/-- A type whose values are listed and have names of their own. -/
class Named (α : Type) where
  all : List α
  name : α → String
  find?_name : ∀ a, all.find? (fun b => name b = name a) = some a

namespace Named

variable {α : Type} [Named α]

/-- The value of a name. -/
def ofName? (s : String) : Option α := all.find? fun a => name a = s

theorem ofName?_name (a : α) : ofName? (name a) = some a := find?_name a

theorem mem_all (a : α) : a ∈ all := List.mem_of_find?_eq_some (find?_name a)

end Named

end Failsafe
