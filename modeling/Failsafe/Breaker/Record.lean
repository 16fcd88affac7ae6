import Failsafe.Breaker
import Failsafe.Duration.Record

/-!
# Breaker figures as records
-/

namespace Failsafe.BreakerMetrics

variable {τ : Type}

def fieldNames : List String :=
  ["active", "consecutive_failures", "failure_threshold", "cooldown", "activated_at", "total_failures",
   "total_successes", "activation_count"]

/-- The figures; times are written by `time`. -/
def toJson (time : τ → Json) (m : BreakerMetrics τ) : Json :=
  .object
    [("active", .bool m.active), ("consecutive_failures", .ofNat m.consecutiveFailures.toNat),
     ("failure_threshold", .ofNat m.failureThreshold.toNat), ("cooldown", m.cooldown.toJson),
     ("activated_at", .ofOption time m.activatedAt), ("total_failures", .ofNat m.totalFailures.toNat),
     ("total_successes", .ofNat m.totalSuccesses.toNat),
     ("activation_count", .ofNat m.activationCount.toNat)]

def ofJson? (time : Json → Option τ) (v : Json) : Option (BreakerMetrics τ) := do
  let fields ← v.record? fieldNames
  let active ← Fields.required? fields "active" Json.bool?
  let consecutiveFailures ← Fields.required? fields "consecutive_failures" Json.uint64?
  let failureThreshold ← Fields.required? fields "failure_threshold" Json.uint32?
  let cooldown ← Fields.required? fields "cooldown" Duration.ofJson?
  let activatedAt ← Fields.optional? fields "activated_at" time
  let totalFailures ← Fields.required? fields "total_failures" Json.uint64?
  let totalSuccesses ← Fields.required? fields "total_successes" Json.uint64?
  let activationCount ← Fields.required? fields "activation_count" Json.uint64?
  some
    { active, consecutiveFailures, failureThreshold, cooldown, activatedAt, totalFailures, totalSuccesses,
      activationCount }

end Failsafe.BreakerMetrics
