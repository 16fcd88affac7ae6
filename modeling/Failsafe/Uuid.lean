import Failsafe.Digits

/-!
# Identifiers

An identifier of 128 bits. It is written as 32 hexadecimal digits in groups of 8, 4, 4, 4 and 12 with hyphens
between them; it may be read without hyphens, and the grouped form also in braces or after `urn:uuid:`.
-/

namespace Failsafe

/-- A universally unique identifier. -/
structure Uuid where
  value : BitVec 128
deriving DecidableEq

namespace Uuid

/-- The lengths of the groups of digits. -/
def groups : List Nat := [8, 4, 4, 4, 12]

/-- Puts a hyphen between groups of the given lengths. -/
def group : List Nat → List Char → List Char
  | [], _ => []
  | [n], cs => cs.take n
  | n :: more, cs => cs.take n ++ '-' :: group more (cs.drop n)

/-- Takes the hyphens between groups of the given lengths away. -/
def ungroup? : List Nat → List Char → Option (List Char)
  | [], cs => if cs.isEmpty then some [] else none
  | [n], cs => if cs.length = n then some cs else none
  | n :: more, cs =>
    match cs.drop n with
    | '-' :: rest => (ungroup? more rest).map (cs.take n ++ ·)
    | _ => none

/-- The 32 digits. -/
def digits (u : Uuid) : List Char := Digits.padded 16 32 u.value.toNat

def text (u : Uuid) : String := String.ofList (group groups u.digits)

/-- The identifier with the given 32 digits. -/
def ofDigits? (cs : List Char) : Option Uuid := do
  guard (cs.length = 32)
  let value ← Digits.value? 16 cs
  some ⟨BitVec.ofNat 128 value⟩

/-- The grouped form in the wrapping it may have. -/
def unwrap (cs : List Char) : List Char :=
  if cs.length = 38 ∧ cs.head? = some '\x7b' ∧ cs.getLast? = some '\x7d' then (cs.drop 1).dropLast
  else if cs.length = 45 ∧ cs.take 9 = "urn:uuid:".toList then cs.drop 9
  else cs

def read? (s : String) : Option Uuid :=
  let cs := s.toList
  if cs.length = 32 then ofDigits? cs
  else (ungroup? groups (unwrap cs)).bind ofDigits?

end Uuid

end Failsafe
