import Failsafe.History
import Failsafe.Timestamp.Stamped

/-!
# Summaries as records

The entries of a summary are recorded with an identifier and a moment; its counts are maps from the names of
categories and severities. In a summary that is spread among the fields of another record, an object without
fields may stand beside a name in place of null.
-/

namespace Failsafe

namespace RecentError

def fields (e : RecentError) : Fields :=
  [("operation", .text e.operation), ("category", .ofName e.category), ("severity", .ofName e.severity),
   ("message", .text e.message), ("retry_count", .ofNat e.retryCount.toNat),
   ("additional_data", .ofOption .object e.data)]

def fieldNames : List String :=
  ["error_id", "operation", "category", "severity", "message", "retry_count", "timestamp",
   "additional_data"]

/-- The entry of given fields; a `blank` value may stand beside a name. -/
def ofFields? (blank : Json → Bool) (fields : Fields) : Option RecentError := do
  let operation ← fields.required? "operation" Json.text?
  let category ← fields.required? "category" (Json.named? blank)
  let severity ← fields.required? "severity" (Json.named? blank)
  let message ← fields.required? "message" Json.text?
  let retryCount ← fields.required? "retry_count" Json.uint32?
  let data ← fields.optional? "additional_data" Json.object?
  some { operation, category, severity, message, retryCount, data }

end RecentError

namespace Logged

/-- A recorded entry of a summary. -/
def errorToJson (r : Logged String RecentError) : Json :=
  .object (("error_id", .text r.id) :: ("timestamp", r.time.toJson) :: r.value.fields)

def errorOfJson? (blank : Json → Bool) (v : Json) : Option (Logged String RecentError) := do
  let fields ← v.record? RecentError.fieldNames
  let id ← Fields.required? fields "error_id" Json.text?
  let time ← Fields.required? fields "timestamp" Timestamp.ofJson?
  let value ← RecentError.ofFields? blank fields
  some { id, value, time }

end Logged

namespace Summary

variable {ε : Type}

def fieldNames : List String :=
  ["total_errors", "retained", "escalations", "by_category", "by_severity", "recent_errors"]

/-- A count in a map. -/
def countToJson (n : UInt64) : Json := .ofNat n.toNat

/-- The fields of a summary; entries are written by `entry`. -/
def fields (entry : ε → Json) (s : Summary ε) : Fields :=
  [("total_errors", countToJson s.totalErrors), ("retained", countToJson s.retained),
   ("escalations", countToJson s.escalations), ("by_category", .ofTable countToJson s.byCategory),
   ("by_severity", .ofTable countToJson s.bySeverity), ("recent_errors", .ofList entry s.recent)]

def toJson (entry : ε → Json) (s : Summary ε) : Json := .object (s.fields entry)

def ofFields? (entry : Json → Option ε) (fields : Fields) : Option (Summary ε) := do
  let totalErrors ← fields.required? "total_errors" Json.uint64?
  let retained ← fields.required? "retained" Json.uint64?
  let escalations ← fields.required? "escalations" Json.uint64?
  let byCategory ← fields.required? "by_category" (Json.table? Json.uint64?)
  let bySeverity ← fields.required? "by_severity" (Json.table? Json.uint64?)
  let recent ← fields.required? "recent_errors" (Json.list? entry)
  some { totalErrors, retained, escalations, byCategory, bySeverity, recent }

def ofJson? (entry : Json → Option ε) (v : Json) : Option (Summary ε) :=
  (v.record? fieldNames).bind (ofFields? entry)

end Summary

end Failsafe
