import Failsafe.Json
import Failsafe.Redaction.Text

/-!
# Redacting values

A JSON value is redacted in place: what stands under a sensitive key is replaced as a whole, every other text
is sanitized, and everything else stays. A `Redactor` does this only when it is enabled.
-/

namespace Failsafe.Redaction

mutual

/-- Redacts a value at every depth. -/
def redact : Json → Json
  | .text s => .text (sanitize s)
  | .array items => .array (redactItems items)
  | .object fields => .object (redactFields fields)
  | .null => .null
  | .bool b => .bool b
  | .number n => .number n

def redactItems : List Json → List Json
  | [] => []
  | item :: rest => redact item :: redactItems rest

def redactFields : List (String × Json) → List (String × Json)
  | [] => []
  | (key, value) :: rest =>
    (key, if isSensitive key then .text marker else redact value) :: redactFields rest

end

end Failsafe.Redaction

namespace Failsafe

/-- Redacts when enabled, and passes everything through otherwise. -/
structure Redactor where
  enabled : Bool
deriving DecidableEq, Repr

namespace Redactor

def text (redactor : Redactor) (s : String) : String :=
  if redactor.enabled then Redaction.sanitize s else s

/-- Redacts each of a set of named values. -/
def fields (redactor : Redactor) (data : Fields) : Fields :=
  if redactor.enabled then
    data.map fun (key, value) =>
      (key, if Redaction.isSensitive key then .text Redaction.marker else Redaction.redact value)
  else data

end Redactor

end Failsafe
