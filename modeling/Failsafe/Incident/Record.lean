import Failsafe.Duration.Record
import Failsafe.Incident
import Failsafe.Timestamp.Stamped
import Failsafe.Uuid

/-!
# Incidents as records

An incident is recorded with an identifier and the moment it was classified.
-/

namespace Failsafe

namespace Uuid

def toJson (u : Uuid) : Json := .text u.text

def ofJson? (v : Json) : Option Uuid := v.text?.bind read?

end Uuid

namespace Incident

def fields (i : Incident) : Fields :=
  [("error_kind", .text i.kindName), ("message", .text i.message), ("category", .ofName i.category),
   ("severity", .ofName i.severity), ("operation", .text i.operation),
   ("retry_count", .ofNat i.retryCount.toNat), ("max_retries", .ofNat i.maxRetries.toNat),
   ("backoff_multiplier", .ofFloat i.backoffMultiplier), ("base_delay", i.baseDelay.toJson),
   ("additional_data", .ofOption .object i.data)]

def fieldNames : List String :=
  ["error_id", "error_kind", "message", "category", "severity", "timestamp", "operation", "retry_count",
   "max_retries", "backoff_multiplier", "base_delay", "additional_data"]

def ofFields? (fields : Fields) : Option Incident := do
  let kindName ← fields.required? "error_kind" Json.text?
  let message ← fields.required? "message" Json.text?
  let category ← fields.required? "category" (Json.named? Json.isNull)
  let severity ← fields.required? "severity" (Json.named? Json.isNull)
  let operation ← fields.required? "operation" Json.text?
  let retryCount ← fields.required? "retry_count" Json.uint32?
  let maxRetries ← fields.required? "max_retries" Json.uint32?
  let backoffMultiplier ← fields.required? "backoff_multiplier" Json.float?
  let baseDelay ← fields.required? "base_delay" Duration.ofJson?
  let data ← fields.optional? "additional_data" Json.object?
  some
    { kindName, message, category, severity, operation, retryCount, maxRetries, backoffMultiplier,
      baseDelay, data }

end Incident

namespace Logged

/-- A recorded incident. -/
def incidentToJson (r : Logged Uuid Incident) : Json :=
  .object (("error_id", r.id.toJson) :: ("timestamp", r.time.toJson) :: r.value.fields)

def incidentOfJson? (v : Json) : Option (Logged Uuid Incident) := do
  let fields ← v.record? Incident.fieldNames
  let id ← Fields.required? fields "error_id" Uuid.ofJson?
  let time ← Fields.required? fields "timestamp" Timestamp.ofJson?
  let value ← Incident.ofFields? fields
  some { id, value, time }

end Logged

end Failsafe
