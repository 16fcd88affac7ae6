import Failsafe.Json.Parts
import Failsafe.Settings

/-!
# Settings as records

What a record of settings leaves out takes its default, except that a pair of thresholds is given whole.
-/

namespace Failsafe

namespace RetrySettings

def fieldNames : List String :=
  ["max_retries", "base_delay_seconds", "max_delay_seconds", "backoff_multiplier"]

def toJson (r : RetrySettings) : Json :=
  .object
    [("max_retries", .ofNat r.maxRetries.toNat), ("base_delay_seconds", .ofFloat r.baseDelaySeconds),
     ("max_delay_seconds", .ofFloat r.maxDelaySeconds),
     ("backoff_multiplier", .ofFloat r.backoffMultiplier)]

def ofJson? (v : Json) : Option RetrySettings := do
  let fields ← v.recordFrom? 0 fieldNames
  let maxRetries ← fields.defaulted? "max_retries" Json.uint32? default.maxRetries
  let baseDelaySeconds ← fields.defaulted? "base_delay_seconds" Json.float? default.baseDelaySeconds
  let maxDelaySeconds ← fields.defaulted? "max_delay_seconds" Json.float? default.maxDelaySeconds
  let backoffMultiplier ← fields.defaulted? "backoff_multiplier" Json.float? default.backoffMultiplier
  some { maxRetries, baseDelaySeconds, maxDelaySeconds, backoffMultiplier }

end RetrySettings

namespace BreakerSettings

def fieldNames : List String := ["failure_threshold", "cooldown_seconds"]

def toJson (b : BreakerSettings) : Json :=
  .object
    [("failure_threshold", .ofNat b.failureThreshold.toNat),
     ("cooldown_seconds", .ofNat b.cooldownSeconds.toNat)]

def ofJson? (v : Json) : Option BreakerSettings := do
  let fields ← v.recordFrom? 0 fieldNames
  let failureThreshold ← fields.defaulted? "failure_threshold" Json.uint32? default.failureThreshold
  let cooldownSeconds ← fields.defaulted? "cooldown_seconds" Json.uint64? default.cooldownSeconds
  some { failureThreshold, cooldownSeconds }

end BreakerSettings

namespace Thresholds

def toJson (t : Thresholds) : Json :=
  .object [("warning_percent", .ofFloat t.warning), ("critical_percent", .ofFloat t.critical)]

def ofJson? (v : Json) : Option Thresholds := do
  let fields ← v.record? ["warning_percent", "critical_percent"]
  let warning ← Fields.required? fields "warning_percent" Json.float?
  let critical ← Fields.required? fields "critical_percent" Json.float?
  some { warning, critical }

end Thresholds

namespace ResourceSettings

def fieldNames : List String := ["poll_interval_seconds", "cpu", "memory", "disk", "network"]

def toJson (r : ResourceSettings) : Json :=
  .object
    [("poll_interval_seconds", .ofNat r.pollIntervalSeconds.toNat), ("cpu", r.cpu.toJson),
     ("memory", r.memory.toJson), ("disk", r.disk.toJson), ("network", r.network.toJson)]

def ofJson? (v : Json) : Option ResourceSettings := do
  let fields ← v.recordFrom? 0 fieldNames
  let pollIntervalSeconds ←
    fields.defaulted? "poll_interval_seconds" Json.uint64? default.pollIntervalSeconds
  let cpu ← fields.defaulted? "cpu" Thresholds.ofJson? default.cpu
  let memory ← fields.defaulted? "memory" Thresholds.ofJson? default.memory
  let disk ← fields.defaulted? "disk" Thresholds.ofJson? default.disk
  let network ← fields.defaulted? "network" Thresholds.ofJson? default.network
  some { pollIntervalSeconds, cpu, memory, disk, network }

end ResourceSettings

namespace SecuritySettings

def fieldNames : List String := ["secure_failure_mode"]

def toJson (s : SecuritySettings) : Json := .object [("secure_failure_mode", .bool s.secureFailureMode)]

def ofJson? (v : Json) : Option SecuritySettings := do
  let fields ← v.recordFrom? 0 fieldNames
  let secureFailureMode ← fields.defaulted? "secure_failure_mode" Json.bool? default.secureFailureMode
  some { secureFailureMode }

end SecuritySettings

namespace ValidationSettings

def fieldNames : List String := ["check_interval_seconds"]

def toJson (s : ValidationSettings) : Json :=
  .object [("check_interval_seconds", .ofNat s.checkIntervalSeconds.toNat)]

def ofJson? (v : Json) : Option ValidationSettings := do
  let fields ← v.recordFrom? 0 fieldNames
  let checkIntervalSeconds ←
    fields.defaulted? "check_interval_seconds" Json.uint64? default.checkIntervalSeconds
  some { checkIntervalSeconds }

end ValidationSettings

namespace Settings

def fieldNames : List String := ["retry", "circuit_breaker", "resources", "security", "validation"]

def toJson (s : Settings) : Json :=
  .object
    [("retry", s.retry.toJson), ("circuit_breaker", s.breaker.toJson), ("resources", s.resources.toJson),
     ("security", s.security.toJson), ("validation", s.validation.toJson)]

def ofJson? (v : Json) : Option Settings := do
  let fields ← v.recordFrom? 0 fieldNames
  let retry ← fields.defaulted? "retry" RetrySettings.ofJson? .default
  let breaker ← fields.defaulted? "circuit_breaker" BreakerSettings.ofJson? .default
  let resources ← fields.defaulted? "resources" ResourceSettings.ofJson? .default
  let security ← fields.defaulted? "security" SecuritySettings.ofJson? .default
  let validation ← fields.defaulted? "validation" ValidationSettings.ofJson? .default
  some { retry, breaker, resources, security, validation }

end Settings

end Failsafe
