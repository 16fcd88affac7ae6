import Failsafe.Health.Governor
import Failsafe.Timestamp.Stamped

/-!
# Health as records

Component statuses with the moment of the last check, reports, resource constraints with the moment of the last
measurement, snapshots of all of these, and the governor's actions. An action is an object whose field
`action` says which it is, or an array that starts with that name.
-/

namespace Failsafe

namespace ComponentStatus

def fields (s : ComponentStatus) : Fields :=
  [("name", .text s.name), ("priority", .ofName s.priority), ("is_active", .bool s.active),
   ("is_healthy", .bool s.healthy), ("error_count", .ofNat s.errorCount.toNat),
   ("degraded_mode", .bool s.degraded), ("failure_reason", .ofOption .text s.reason)]

def fieldNames : List String :=
  ["name", "priority", "is_active", "is_healthy", "last_health_check", "error_count", "degraded_mode",
   "failure_reason"]

def ofFields? (fields : Fields) : Option ComponentStatus := do
  let name ← fields.required? "name" Json.text?
  let priority ← fields.required? "priority" (Json.named? Json.isNull)
  let active ← fields.required? "is_active" Json.bool?
  let healthy ← fields.required? "is_healthy" Json.bool?
  let errorCount ← fields.required? "error_count" Json.uint64?
  let degraded ← fields.required? "degraded_mode" Json.bool?
  let reason ← fields.optional? "failure_reason" Json.text?
  some { name, priority, active, healthy, errorCount, degraded, reason }

end ComponentStatus

namespace Stamped

/-- A status with the moment of the last check. -/
def statusToJson (r : Stamped ComponentStatus) : Json :=
  .object (("last_health_check", r.time.toJson) :: r.value.fields)

def statusOfJson? (v : Json) : Option (Stamped ComponentStatus) := do
  let fields ← v.record? ComponentStatus.fieldNames
  let time ← Fields.required? fields "last_health_check" Timestamp.ofJson?
  let value ← ComponentStatus.ofFields? fields
  some { value, time }

end Stamped

namespace Degradation

variable {σ : Type}

/-- The result of a report; the status is written by `status`. -/
def toJson (status : σ → Json) (d : Degradation σ) : Json :=
  .object
    [("component", .text d.component), ("outcome", .ofName d.outcome), ("status", status d.status),
     ("system_state", .ofName d.systemState)]

def ofJson? (status : Json → Option σ) (v : Json) : Option (Degradation σ) := do
  let fields ← v.record? ["component", "outcome", "status", "system_state"]
  let component ← Fields.required? fields "component" Json.text?
  let outcome ← Fields.required? fields "outcome" (Json.named? Json.isNull)
  let status ← Fields.required? fields "status" status
  let systemState ← Fields.required? fields "system_state" (Json.named? Json.isNull)
  some { component, outcome, status, systemState }

end Degradation

/-- A resource with its thresholds, the last use seen, and when it was seen. -/
structure ResourceReading where
  kind : ResourceKind
  thresholds : Thresholds
  usage : Float
  measuredAt : Option Timestamp

namespace ResourceReading

def toJson (r : ResourceReading) : Json :=
  .object
    [("resource", .ofName r.kind), ("warning_threshold", .ofFloat r.thresholds.warning),
     ("critical_threshold", .ofFloat r.thresholds.critical), ("current_usage", .ofFloat r.usage),
     ("last_updated", .ofOption Timestamp.toJson r.measuredAt)]

def ofJson? (v : Json) : Option ResourceReading := do
  let fields ← v.record?
    ["resource", "warning_threshold", "critical_threshold", "current_usage", "last_updated"]
  let kind ← Fields.required? fields "resource" (Json.named? Json.isNull)
  let warning ← Fields.required? fields "warning_threshold" Json.float?
  let critical ← Fields.required? fields "critical_threshold" Json.float?
  let usage ← Fields.required? fields "current_usage" Json.float?
  let measuredAt ← Fields.optional? fields "last_updated" Timestamp.ofJson?
  some { kind, thresholds := ⟨warning, critical⟩, usage, measuredAt }

end ResourceReading

/-- A snapshot as it is recorded. -/
structure HealthReading where
  state : SystemState
  components : List (String × Stamped ComponentStatus)
  resources : ResourceKind → Option ResourceReading
  consistent : Bool
  time : Timestamp

namespace HealthReading

def componentsOfJson? (v : Json) : Option (List (String × Stamped ComponentStatus)) := do
  let fields ← v.object?
  fields.mapM fun (name, status) => (Stamped.statusOfJson? status).map fun status => (name, status)

def toJson (r : HealthReading) : Json :=
  .object
    [("state", .ofName r.state),
     ("components", .object (r.components.map fun (name, status) => (name, status.statusToJson))),
     ("resources", .ofTable ResourceReading.toJson r.resources),
     ("blockchain_state_consistent", .bool r.consistent), ("generated_at", r.time.toJson)]

def ofJson? (v : Json) : Option HealthReading := do
  let fields ← v.record?
    ["state", "components", "resources", "blockchain_state_consistent", "generated_at"]
  let state ← Fields.required? fields "state" (Json.named? Json.isNull)
  let components ← Fields.required? fields "components" componentsOfJson?
  let resources ← Fields.required? fields "resources" (Json.table? ResourceReading.ofJson?)
  let consistent ← Fields.required? fields "blockchain_state_consistent" Json.bool?
  let time ← Fields.required? fields "generated_at" Timestamp.ofJson?
  some { state, components, resources, consistent, time }

end HealthReading

namespace GovernorAction

def toJson : GovernorAction → Json
  | .disabledLowPriority components =>
    .object [("action", .text "disabled_low_priority"), ("components", .ofList .text components)]
  | .reducedProcessingFrequency => .object [("action", .text "reduced_processing_frequency")]
  | .logLevelLowered => .object [("action", .text "log_level_lowered")]
  | .forcedCleanup => .object [("action", .text "forced_cleanup")]

/-- An action that consists of its name. -/
def plain? : String → Option GovernorAction
  | "reduced_processing_frequency" => some .reducedProcessingFrequency
  | "log_level_lowered" => some .logLevelLowered
  | "forced_cleanup" => some .forcedCleanup
  | _ => none

/-- The names of disabled components. -/
def disabled? (components : Json) : Option GovernorAction :=
  (components.list? Json.text?).map .disabledLowPriority

def ofJson? : Json → Option GovernorAction
  | .object fields => do
    let action ← Fields.required? fields "action" Json.text?
    if action = "disabled_low_priority" then Fields.required? fields "components" disabled?
    else plain? action
  | .array [.text "disabled_low_priority", components] => disabled? components
  | .array [.text action] => plain? action
  | _ => none

end GovernorAction

end Failsafe
