/-!
# Expected characters

The step of a reader over a fixed character.
-/

namespace Failsafe.Text

/-- Takes a character off the front, if it is the expected one. -/
def expect? (c : Char) : List Char → Option (List Char)
  | d :: rest => if c = d then some rest else none
  | [] => none

end Failsafe.Text
