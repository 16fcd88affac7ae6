import Failsafe.Json.Parts
import Failsafe.Timestamp.Text

/-!
# Stamped values

Values with the moment they were taken at, and with an identifier: what records of running systems add to the
values that this library computes.
-/

namespace Failsafe

/-- A value and the moment it was taken at. -/
structure Stamped (α : Type) where
  value : α
  time : Timestamp
deriving DecidableEq

/-- A stamped value with an identifier. -/
structure Logged (ι α : Type) where
  id : ι
  value : α
  time : Timestamp
deriving DecidableEq

namespace Timestamp

def toJson (t : Timestamp) : Json := .text t.text

def ofJson? (v : Json) : Option Timestamp := v.text?.bind read?

end Timestamp

end Failsafe
