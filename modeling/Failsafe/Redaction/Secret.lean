import Failsafe.Redaction.Text

/-!
# Secrets

A secret holds bytes that only `expose` and `withSecret` give out; its own texts show nothing but their
number.
-/

namespace Failsafe

/-- Key material. -/
structure Secret where
  expose : List UInt8
deriving DecidableEq

namespace Secret

def ofText (s : String) : Secret := ⟨s.toUTF8.toList⟩

def size (secret : Secret) : Nat := secret.expose.length

def isEmpty (secret : Secret) : Bool := secret.expose.isEmpty

/-- Runs a function on the bytes. -/
def withSecret {α : Type} (secret : Secret) (f : List UInt8 → α) : α := f secret.expose

/-- A secret on one line. -/
def text (secret : Secret) : String :=
  "SecretHandle \x7b bytes: \"" ++ Redaction.marker ++ "\", len: " ++ toString secret.size ++ " \x7d"

/-- A secret over several lines. -/
def prettyText (secret : Secret) : String :=
  "SecretHandle \x7b\n    bytes: \"" ++ Redaction.marker ++ "\",\n    len: " ++ toString secret.size
    ++ ",\n\x7d"

end Secret

end Failsafe
