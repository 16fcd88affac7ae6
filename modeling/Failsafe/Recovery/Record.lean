import Failsafe.Duration.Record
import Failsafe.Recovery.Action

/-!
# Actions as records
-/

namespace Failsafe.Action

def fieldNames : List String :=
  ["should_retry", "delay", "parameter_adjustments", "escalate", "stop_trading"]

def fields (a : Action) : Fields :=
  [("should_retry", .bool a.shouldRetry), ("delay", a.delay.toJson),
   ("parameter_adjustments", .ofOption .object a.adjustments), ("escalate", .bool a.escalate),
   ("stop_trading", .bool a.stopTrading)]

def toJson (a : Action) : Json := .object a.fields

def ofJson? (v : Json) : Option Action := do
  let fields ← v.record? fieldNames
  let shouldRetry ← Fields.required? fields "should_retry" Json.bool?
  let delay ← Fields.required? fields "delay" Duration.ofJson?
  let adjustments ← Fields.optional? fields "parameter_adjustments" Json.object?
  let escalate ← Fields.required? fields "escalate" Json.bool?
  let stopTrading ← Fields.required? fields "stop_trading" Json.bool?
  some { shouldRetry, delay, adjustments, escalate, stopTrading }

end Failsafe.Action
