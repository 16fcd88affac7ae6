/-!
# Parts of a text by byte

A text may be cut at places counted in the bytes of its UTF-8 form. A cut that would fall inside a character is
refused: `cut?` gives whole characters or nothing.
-/

namespace Failsafe.Text

/-- The number of bytes of a text in UTF-8. -/
def byteLength : List Char → Nat
  | [] => 0
  | c :: cs => c.utf8Size + byteLength cs

/-- What is left of a text after its first `n` bytes. -/
def dropBytes? : Nat → List Char → Option (List Char)
  | 0, cs => some cs
  | _ + 1, [] => none
  | n + 1, c :: cs => if c.utf8Size ≤ n + 1 then dropBytes? (n + 1 - c.utf8Size) cs else none

/-- The first `n` bytes of a text. -/
def takeBytes? : Nat → List Char → Option (List Char)
  | 0, _ => some []
  | _ + 1, [] => none
  | n + 1, c :: cs =>
    if c.utf8Size ≤ n + 1 then (takeBytes? (n + 1 - c.utf8Size) cs).map (c :: ·) else none

/-- The bytes of a text from `start` up to `stop`. -/
def cut? (start stop : Nat) (cs : List Char) : Option (List Char) := do
  takeBytes? (stop - start) (← dropBytes? start cs)

end Failsafe.Text
